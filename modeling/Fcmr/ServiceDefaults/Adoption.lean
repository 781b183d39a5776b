import Fcmr.DotNet.Trimming
import Fcmr.Library.Machines
import Fcmr.ServiceDefaults.Correlation

/-! One request, one correlation id: what the value is through any calls that offer one from a
body. -/
namespace Fcmr.ServiceDefaults

open DotNet CorrelationIdFormat

namespace CorrelationIdFormat

def Allowed (c : CodeUnit) : Prop :=
  (0x30 ≤ c ∧ c ≤ 0x39) ∨ (0x41 ≤ c ∧ c ≤ 0x5A) ∨ (0x61 ≤ c ∧ c ≤ 0x7A) ∨
    c = digit '-' ∨ c = digit '_' ∨ c = digit '.' ∨ c = digit ':'

structure Acceptable (value : Text) : Prop where
  nonempty : value ≠ []
  length_le : value.length ≤ 128
  allowed : ∀ c ∈ value, Allowed c

theorem allowed_iff {c : CodeUnit} : Allowed c ↔ (isAsciiLetterOrDigit c || c == digit '-' ||
    c == digit '_' || c == digit '.' || c == digit ':') = true := by
  simp only [Allowed, isAsciiLetterOrDigit, Bool.or_eq_true, Bool.and_eq_true, decide_eq_true_eq,
    beq_iff_eq, or_assoc]

theorem Allowed.range {c : CodeUnit} (h : Allowed c) : 0x20 < c.toNat ∧ c.toNat < 0x85 := by
  rcases h with ⟨hlow, hhigh⟩ | ⟨hlow, hhigh⟩ | ⟨hlow, hhigh⟩ | rfl | rfl | rfl | rfl
  · exact ⟨lt_of_lt_of_le (by decide) hlow, lt_of_le_of_lt hhigh (by decide)⟩
  · exact ⟨lt_of_lt_of_le (by decide) hlow, lt_of_le_of_lt hhigh (by decide)⟩
  · exact ⟨lt_of_lt_of_le (by decide) hlow, lt_of_le_of_lt hhigh (by decide)⟩
  · decide
  · decide
  · decide
  · decide

theorem Allowed.not_whiteSpace {c : CodeUnit} (h : Allowed c) : ¬isWhiteSpace c = true := by
  intro hwhite
  obtain ⟨hlow, hhigh⟩ := h.range
  have houtside : ∀ white ∈ whiteRanges, white.2 ≤ 0x20 ∨ 0x85 ≤ white.1 := by decide
  obtain ⟨white, hmem, hfirst, hlast⟩ := isWhiteSpace_iff.mp hwhite
  rcases houtside white hmem with hbelow | habove <;> omega

theorem isAcceptable_iff (value : Text) : isAcceptable (some value) = true ↔ Acceptable value := by
  have hall : (value.all fun c => isAsciiLetterOrDigit c || c == digit '-' || c == digit '_' ||
      c == digit '.' || c == digit ':') = true ↔ ∀ c ∈ value, Allowed c := by
    rw [List.all_eq_true]
    exact forall₂_congr fun c _ => allowed_iff.symm
  unfold isAcceptable
  dsimp only
  constructor
  · intro h
    split at h
    · cases h
    · rename_i hguard
      rw [Bool.or_eq_true, not_or, decide_eq_true_eq] at hguard
      refine ⟨?_, Nat.le_of_not_lt hguard.2, hall.mp h⟩
      rintro rfl
      exact hguard.1 rfl
  · intro h
    rw [if_neg, hall]
    · exact h.allowed
    · rw [Bool.or_eq_true, not_or, decide_eq_true_eq]
      refine ⟨?_, Nat.not_lt_of_le h.length_le⟩
      intro hblank
      obtain ⟨c, rest, rfl⟩ := List.exists_cons_of_ne_nil h.nonempty
      exact (h.allowed c List.mem_cons_self).not_whiteSpace
        (List.all_eq_true.mp hblank c List.mem_cons_self)

end CorrelationIdFormat

namespace CorrelationIdAccessor

variable {accessor : CorrelationIdAccessor} {candidate : Option Text}

/-- Calls of `TryAdoptFromBody`, one after the other. -/
def adoptAll (accessor : CorrelationIdAccessor) (candidates : List (Option Text)) :
    CorrelationIdAccessor :=
  candidates.foldl (fun accessor candidate => (accessor.tryAdoptFromBody candidate).2) accessor

inductive Exit (accessor : CorrelationIdAccessor) (candidate : Option Text) : Prop
  | kept (agreed : ∀ id, candidate = some id → Acceptable id → id = accessor.value)
      (result : accessor.tryAdoptFromBody candidate = (true, accessor))
  | disagreed (id : Text) (offered : candidate = some id) (acceptable : Acceptable id)
      (other : id ≠ accessor.value) (supplied : accessor.source ≠ .generated)
      (result : accessor.tryAdoptFromBody candidate = (false, accessor))
  | adopted (id : Text) (offered : candidate = some id) (acceptable : Acceptable id)
      (generated : accessor.source = .generated)
      (result : accessor.tryAdoptFromBody candidate = (true, ⟨id, .body⟩))

theorem tryAdoptFromBody_exit (accessor : CorrelationIdAccessor) (candidate : Option Text) :
    Exit accessor candidate := by
  cases candidate with
  | none => exact .kept nofun rfl
  | some id =>
    by_cases hacceptable : isAcceptable (some id) = true
    · have hvalid := (isAcceptable_iff id).mp hacceptable
      have hguard : ¬isAcceptable (some id) = false := by simp [hacceptable]
      by_cases hsame : id = accessor.value
      · refine .kept ?_ ?_
        · rintro _ ⟨⟩ _
          exact hsame
        · rw [tryAdoptFromBody, if_neg hguard, if_pos hsame]
      by_cases hsource : accessor.source = .generated
      · refine .adopted id rfl hvalid hsource ?_
        rw [tryAdoptFromBody, if_neg hguard, if_neg hsame, if_neg (not_not.mpr hsource)]
      · refine .disagreed id rfl hvalid hsame hsource ?_
        rw [tryAdoptFromBody, if_neg hguard, if_neg hsame, if_pos hsource]
    · refine .kept ?_ ?_
      · rintro _ ⟨⟩ hvalid
        exact absurd ((isAcceptable_iff id).mpr hvalid) hacceptable
      · rw [tryAdoptFromBody, if_pos (eq_false_of_ne_true hacceptable)]

def adoption : Machines.Machine CorrelationIdAccessor (Option Text) := fun accessor candidate =>
  if (accessor.tryAdoptFromBody candidate).2.source = accessor.source then none
  else some (accessor.tryAdoptFromBody candidate).2

theorem adoption_eq_some {next : CorrelationIdAccessor} (h : adoption accessor candidate = some next) :
    accessor.source = .generated ∧ Acceptable next.value ∧ next.source = .body := by
  unfold adoption at h
  cases tryAdoptFromBody_exit accessor candidate with
  | kept _ result =>
    rw [result, if_pos rfl] at h
    cases h
  | disagreed _ _ _ _ _ result =>
    rw [result, if_pos rfl] at h
    cases h
  | adopted id _ acceptable generated result =>
    rw [result, generated, if_neg nofun] at h
    cases h
    exact ⟨generated, acceptable, rfl⟩

theorem next_adoption (accessor : CorrelationIdAccessor) (candidate : Option Text) :
    Machines.next adoption accessor candidate = (accessor.tryAdoptFromBody candidate).2 := by
  unfold Machines.next adoption
  cases tryAdoptFromBody_exit accessor candidate with
  | kept _ result => rw [result, if_pos rfl, Option.getD_none]
  | disagreed _ _ _ _ _ result => rw [result, if_pos rfl, Option.getD_none]
  | adopted _ _ _ generated result =>
    rw [result, generated, if_neg nofun, Option.getD_some]

theorem adoptAll_eq_run (accessor : CorrelationIdAccessor) (candidates : List (Option Text)) :
    adoptAll accessor candidates = Machines.run adoption accessor candidates := by
  unfold adoptAll Machines.run
  simp only [← next_adoption]

theorem adoption_writeOnce :
    Machines.WriteOnce adoption fun accessor => accessor.source ≠ .generated where
  refused accessor candidate hsupplied := by
    cases h : adoption accessor candidate with
    | none => rfl
    | some next => exact absurd (adoption_eq_some h).1 hsupplied
  closes accessor candidate next h := by
    rw [(adoption_eq_some h).2.2]
    decide

theorem adoptAll_of_supplied (h : accessor.source ≠ .generated) (candidates : List (Option Text)) :
    adoptAll accessor candidates = accessor := by
  rw [adoptAll_eq_run]
  exact adoption_writeOnce.run_of_closed h candidates

theorem adoptAll_acceptable (h : Acceptable accessor.value) (candidates : List (Option Text)) :
    Acceptable (adoptAll accessor candidates).value := by
  rw [adoptAll_eq_run]
  have hstep (current : CorrelationIdAccessor) (offered : Option Text)
      (next : CorrelationIdAccessor) (_ : Acceptable current.value)
      (hnext : adoption current offered = some next) : Acceptable next.value :=
    (adoption_eq_some hnext).2.1
  exact Machines.run_invariant hstep h candidates

/-- What the accessor of a request is, and what the next call does to it. -/
structure Settled (accessor : CorrelationIdAccessor) (candidate : Option Text) : Prop where
  acceptable : Acceptable accessor.value
  generated : (accessor.tryAdoptFromBody candidate).2.value ≠ accessor.value →
    accessor.source = .generated
  once : (accessor.tryAdoptFromBody candidate).2.value ≠ accessor.value →
    ∀ later, adoptAll (accessor.tryAdoptFromBody candidate).2 later =
      (accessor.tryAdoptFromBody candidate).2
  header : accessor.source = .header → ∀ later, adoptAll accessor later = accessor
  refused : (accessor.tryAdoptFromBody candidate).1 = false ↔ ∃ id, candidate = some id ∧
    Acceptable id ∧ id ≠ accessor.value ∧ (accessor.source = .header ∨ accessor.source = .body)
  unchanged : (accessor.tryAdoptFromBody candidate).1 = false →
    (accessor.tryAdoptFromBody candidate).2 = accessor

theorem settled (h : Acceptable accessor.value) (candidate : Option Text) :
    Settled accessor candidate := by
  have hheader (hsource : accessor.source = .header) (later : List (Option Text)) :
      adoptAll accessor later = accessor :=
    adoptAll_of_supplied (by rw [hsource]; decide) later
  cases tryAdoptFromBody_exit accessor candidate with
  | kept agreed result =>
    refine ⟨h, ?_, ?_, hheader, ?_, ?_⟩ <;> rw [result]
    · exact absurd rfl
    · exact absurd rfl
    · refine ⟨nofun, ?_⟩
      rintro ⟨id, hid, hacceptable, hother, _⟩
      exact absurd (agreed id hid hacceptable) hother
    · exact fun _ => rfl
  | disagreed id offered acceptable other supplied result =>
    refine ⟨h, ?_, ?_, hheader, ?_, ?_⟩ <;> rw [result]
    · exact absurd rfl
    · exact absurd rfl
    · refine ⟨fun _ => ⟨id, offered, acceptable, other, ?_⟩, fun _ => rfl⟩
      cases hsource : accessor.source with
      | generated => exact absurd hsource supplied
      | header => exact .inl rfl
      | body => exact .inr rfl
    · exact fun _ => rfl
  | adopted id _ acceptable generated result =>
    refine ⟨h, ?_, ?_, hheader, ?_, ?_⟩ <;> rw [result]
    · exact fun _ => generated
    · exact fun _ => adoptAll_of_supplied nofun
    · refine ⟨nofun, ?_⟩
      rintro ⟨_, _, _, _, hsource | hsource⟩ <;> cases generated.symm.trans hsource
    · exact nofun

end CorrelationIdAccessor

open CorrelationIdAccessor

theorem invokeAsync_acceptable (supplied : Text) {generated : Text}
    (h : isAcceptable (some generated) = true) :
    Acceptable (CorrelationIdMiddleware.invokeAsync supplied generated).value := by
  unfold CorrelationIdMiddleware.invokeAsync
  split
  · rename_i hsupplied
    exact (isAcceptable_iff supplied).mp hsupplied
  · exact (isAcceptable_iff generated).mp h

/-- Through any calls, a request keeps one acceptable correlation id, and gives up no more than
the one that was generated for it. -/
theorem correlationId_settled (supplied : Text) {generated : Text}
    (h : isAcceptable (some generated) = true) (before : List (Option Text))
    (candidate : Option Text) :
    Settled (adoptAll (CorrelationIdMiddleware.invokeAsync supplied generated) before) candidate :=
  settled (adoptAll_acceptable (invokeAsync_acceptable supplied h) before) candidate

namespace Samples

theorem body_settled : Settled (adoptAll (CorrelationIdMiddleware.invokeAsync [] (lit "guid-1"))
    [none, some (lit "corr 1")]) (some (lit "corr-1")) :=
  correlationId_settled [] (by decide) [none, some (lit "corr 1")] (some (lit "corr-1"))

end Samples

end Fcmr.ServiceDefaults
