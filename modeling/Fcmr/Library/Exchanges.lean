import Mathlib.Data.List.Basic

/-! The requests of a client that does not wait: each is sent once and answered at most once,
and the answers come in any order. -/
namespace Exchanges

variable {κ ι ρ : Type*}

structure Exchange (κ ι ρ : Type*) where
  sender : κ
  request : ι
  answer : Option ρ

abbrev Log (κ ι ρ : Type*) := List (Exchange κ ι ρ)

def Log.send (log : Log κ ι ρ) (sender : κ) (request : ι) : Log κ ι ρ :=
  log ++ [⟨sender, request, none⟩]

def Log.resolve (log : Log κ ι ρ) (i : Nat) (answer : ρ) : Log κ ι ρ :=
  log.modify i fun exchange => { exchange with answer := some answer }

def Log.Sent (log : Log κ ι ρ) (sender : κ) (request : ι) : Prop :=
  ∃ answer, ⟨sender, request, answer⟩ ∈ log

def Log.Pending (log : Log κ ι ρ) (i : Nat) (sender : κ) (request : ι) : Prop :=
  log[i]? = some ⟨sender, request, none⟩

def Log.Answered (log : Log κ ι ρ) (sender : κ) (request : ι) (answer : ρ) : Prop :=
  ⟨sender, request, some answer⟩ ∈ log

variable {log : Log κ ι ρ} {sender sender' : κ} {request request' : ι} {answer answer' : ρ}
  {i j : Nat}

theorem sent_send : (log.send sender request).Sent sender' request' ↔
    log.Sent sender' request' ∨ sender' = sender ∧ request' = request := by
  simp [Log.Sent, Log.send, exists_or]

theorem answered_send : (log.send sender request).Answered sender' request' answer' ↔
    log.Answered sender' request' answer' := by
  simp [Log.Answered, Log.send]

theorem pending_send : (log.send sender request).Pending i sender' request' ↔
    log.Pending i sender' request' ∨
      i = log.length ∧ sender' = sender ∧ request' = request := by
  unfold Log.Pending Log.send
  rcases Nat.lt_trichotomy i log.length with hlt | rfl | hgt
  · simp [List.getElem?_append_left hlt, Nat.ne_of_lt hlt]
  · simp [eq_comm]
  · have hlast : (log ++ [⟨sender, request, none⟩])[i]? = none :=
      List.getElem?_eq_none (by simpa [Log.send] using Nat.succ_le_of_lt hgt)
    simp [hlast, List.getElem?_eq_none (Nat.le_of_lt hgt), Nat.ne_of_gt hgt]

theorem getElem?_resolve : (log.resolve i answer)[j]? =
    if i = j then log[j]?.map fun exchange => { exchange with answer := some answer }
    else log[j]? := by
  unfold Log.resolve
  rw [List.getElem?_modify]
  split <;> simp

theorem pending_resolve (h : log.Pending i sender request) :
    (log.resolve i answer).Pending j sender' request' ↔
      j ≠ i ∧ log.Pending j sender' request' := by
  unfold Log.Pending at h ⊢
  rw [getElem?_resolve]
  by_cases hij : i = j
  · subst hij
    simp [h]
  · simp [hij, Ne.symm hij]

theorem answered_resolve (h : log.Pending i sender request) :
    (log.resolve i answer).Answered sender' request' answer' ↔
      log.Answered sender' request' answer' ∨
        sender' = sender ∧ request' = request ∧ answer' = answer := by
  unfold Log.Answered
  simp only [List.mem_iff_getElem?, getElem?_resolve]
  unfold Log.Pending at h
  constructor
  · rintro ⟨j, hj⟩
    by_cases hij : i = j
    · subst hij
      right
      simpa [h, eq_comm] using hj
    · left
      exact ⟨j, by rwa [if_neg hij] at hj⟩
  · rintro (⟨j, hj⟩ | ⟨rfl, rfl, rfl⟩)
    · refine ⟨j, ?_⟩
      rw [if_neg ?_, hj]
      rintro rfl
      cases h.symm.trans hj
    · exact ⟨i, by simp [h]⟩

theorem sent_resolve (h : log.Pending i sender request) :
    (log.resolve i answer).Sent sender' request' ↔ log.Sent sender' request' := by
  unfold Log.Sent
  simp only [List.mem_iff_getElem?, getElem?_resolve]
  unfold Log.Pending at h
  constructor
  · rintro ⟨answer', j, hj⟩
    by_cases hij : i = j
    · subst hij
      rw [if_pos rfl, h] at hj
      cases hj
      exact ⟨none, i, h⟩
    · exact ⟨answer', j, by rwa [if_neg hij] at hj⟩
  · rintro ⟨answer', j, hj⟩
    by_cases hij : i = j
    · subst hij
      cases h.symm.trans hj
      exact ⟨some answer, i, by rw [if_pos rfl, h]; rfl⟩
    · exact ⟨answer', j, by rwa [if_neg hij]⟩

theorem Log.Pending.sent (h : log.Pending i sender request) : log.Sent sender request :=
  ⟨none, List.mem_of_getElem? h⟩

/-- The senders that are busy exactly while a request of theirs waits, and it is only one. -/
structure Single (log : Log κ ι ρ) (owns : κ → ι → Prop) (busy : Prop) : Prop where
  waits : busy ↔ ∃ i sender request, log.Pending i sender request ∧ owns sender request
  alone : ∀ i j sender sender' request request', log.Pending i sender request →
    owns sender request → log.Pending j sender' request' → owns sender' request' → i = j

variable {owns : κ → ι → Prop} {busy busy' : Prop}

theorem Single.idle (h : Single log owns busy) (hidle : ¬busy)
    (hi : log.Pending i sender request) : ¬owns sender request :=
  fun howns => hidle (h.waits.mpr ⟨i, sender, request, hi, howns⟩)

theorem Single.send_own (h : Single log owns busy) (hidle : ¬busy) (howns : owns sender request)
    (hbusy : busy') : Single (log.send sender request) owns busy' where
  waits := iff_of_true hbusy
    ⟨log.length, sender, request, pending_send.mpr (.inr ⟨rfl, rfl, rfl⟩), howns⟩
  alone i j _ _ _ _ hi howns hj howns' := by
    rcases pending_send.mp hi with hearlier | ⟨rfl, _⟩
    · exact absurd howns (h.idle hidle hearlier)
    rcases pending_send.mp hj with hearlier | ⟨rfl, _⟩
    · exact absurd howns' (h.idle hidle hearlier)
    · rfl

theorem Single.send_other (h : Single log owns busy) (hother : ¬owns sender request) :
    Single (log.send sender request) owns busy where
  waits := by
    rw [h.waits]
    constructor
    · rintro ⟨i, sender', request', hi, howns⟩
      exact ⟨i, sender', request', pending_send.mpr (.inl hi), howns⟩
    · rintro ⟨i, sender', request', hi, howns⟩
      rcases pending_send.mp hi with hearlier | ⟨_, rfl, rfl⟩
      · exact ⟨i, sender', request', hearlier, howns⟩
      · exact absurd howns hother
  alone i j _ _ _ _ hi howns hj howns' := by
    rcases pending_send.mp hi with hearlier | ⟨_, rfl, rfl⟩
    · rcases pending_send.mp hj with hearlier' | ⟨_, rfl, rfl⟩
      · exact h.alone _ _ _ _ _ _ hearlier howns hearlier' howns'
      · exact absurd howns' hother
    · exact absurd howns hother

theorem Single.alone_resolve (h : Single log owns busy) (hi : log.Pending i sender request)
    (answer : ρ) (j k : Nat) (sender' sender'' : κ) (request' request'' : ι)
    (hj : (log.resolve i answer).Pending j sender' request') (howns : owns sender' request')
    (hk : (log.resolve i answer).Pending k sender'' request'') (howns' : owns sender'' request'') :
    j = k :=
  h.alone _ _ _ _ _ _ ((pending_resolve hi).mp hj).2 howns ((pending_resolve hi).mp hk).2 howns'

theorem Single.resolve_own (h : Single log owns busy) (hi : log.Pending i sender request)
    (howns : owns sender request) (hidle : ¬busy') :
    Single (log.resolve i answer) owns busy' where
  waits := by
    refine iff_of_false hidle ?_
    rintro ⟨j, _, _, hj, howns'⟩
    obtain ⟨hne, hpending⟩ := (pending_resolve hi).mp hj
    exact hne (h.alone _ _ _ _ _ _ hpending howns' hi howns)
  alone := h.alone_resolve hi answer

theorem Single.resolve_other (h : Single log owns busy) (hi : log.Pending i sender request)
    (hother : ¬owns sender request) : Single (log.resolve i answer) owns busy where
  waits := by
    rw [h.waits]
    constructor
    · rintro ⟨j, sender', request', hj, howns⟩
      refine ⟨j, sender', request', (pending_resolve hi).mpr ⟨?_, hj⟩, howns⟩
      rintro rfl
      cases hi.symm.trans hj
      exact hother howns
    · rintro ⟨j, sender', request', hj, howns⟩
      exact ⟨j, sender', request', ((pending_resolve hi).mp hj).2, howns⟩
  alone := h.alone_resolve hi answer

theorem Single.of_unsent (h : ∀ sender request, log.Sent sender request → ¬owns sender request)
    (hidle : ¬busy) : Single log owns busy where
  waits := by
    refine iff_of_false hidle ?_
    rintro ⟨_, sender, request, hi, howns⟩
    exact h sender request hi.sent howns
  alone _ _ _ _ _ _ hi howns _ _ := absurd howns (h _ _ hi.sent)

end Exchanges
