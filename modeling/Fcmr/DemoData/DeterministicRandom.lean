import Fcmr.DotNet.FloatingRange
import Fcmr.Library.Draws
import Fcmr.Library.Xorshift

/-! The generator behind the fixtures. Its state is never zero, which would be the end of it. -/
namespace Fcmr.DemoData

open DotNet Draws

structure DeterministicRandom where
  state : UInt64

/-- A draw that may throw. -/
abbrev Drawing (α : Type) := Draw DeterministicRandom α

namespace DeterministicRandom

def new (seed : UInt64) : DeterministicRandom where
  state := if seed = 0 then 0x9E3779B97F4A7C15 else seed

def xorshift (x : UInt64) : UInt64 :=
  let x := x ^^^ (x >>> 12)
  let x := x ^^^ (x <<< 25)
  x ^^^ (x >>> 27)

def multiplier : UInt64 := 0x2545F4914F6CDD1D

def nextUInt64 : Drawing UInt64 := fun rng =>
  let x := xorshift rng.state
  some (x * multiplier, ⟨x⟩)

def next (maxExclusive : Int) : Drawing Nat :=
  if maxExclusive ≤ 0 then ofOption none
  else do
    let u ← nextUInt64
    return u.toNat % maxExclusive.toNat

def nextBetween (minInclusive maxExclusive : Int) : Drawing Int :=
  if maxExclusive ≤ minInclusive then ofOption none
  else do
    let n ← next (maxExclusive - minInclusive)
    return minInclusive + n

def nextDouble : Drawing Double := do
  let u ← nextUInt64
  return (Double.ofRat (u >>> 11).toNat).mul (.div (.ofRat 1) (.ofRat 9007199254740992))

def nextBool (probability : Double) : Drawing Bool := do
  let x ← nextDouble
  return x.lt probability

def pick {α : Type} (items : List α) : Drawing α := do
  let index ← next items.length
  ofOption items[index]?

def nextDecimal (minInclusive maxExclusive : Decimal) : Drawing Decimal := do
  let x ← nextDouble
  let share ← ofOption (Decimal.ofDouble x)
  let width ← ofOption (maxExclusive.sub minInclusive)
  let offset ← ofOption (share.mul width)
  let sum ← ofOption (minInclusive.add offset)
  return sum.round 4

/-- `ForStream`: FNV-1a over the name, mixed with the seed. -/
def forStream (seed : UInt64) (streamName : Text) : DeterministicRandom :=
  let hash := streamName.foldl (fun hash ch => (hash ^^^ ch.toUInt64) * 1099511628211)
    14695981039346656037
  new (seed ^^^ hash)

def output (rng : DeterministicRandom) : UInt64 := xorshift rng.state * multiplier
def advanced (rng : DeterministicRandom) : DeterministicRandom := ⟨xorshift rng.state⟩

theorem run_nextUInt64 (rng : DeterministicRandom) :
    nextUInt64.run rng = some (output rng, advanced rng) := rfl

theorem run_next {maxExclusive : Int} (h : 0 < maxExclusive) (rng : DeterministicRandom) :
    (next maxExclusive).run rng = some ((output rng).toNat % maxExclusive.toNat, advanced rng) := by
  unfold next
  rw [if_neg (by omega)]
  rfl

theorem run_nextBetween_eq {minInclusive maxExclusive : Int} (h : minInclusive < maxExclusive)
    (rng : DeterministicRandom) : (nextBetween minInclusive maxExclusive).run rng =
      some (minInclusive + ↑((output rng).toNat % (maxExclusive - minInclusive).toNat),
        advanced rng) := by
  have hpos : 0 < maxExclusive - minInclusive := by omega
  unfold nextBetween
  rw [if_neg (by omega), run_bind_of_run (run_next hpos rng), StateT.run_pure]
  rfl

theorem run_nextBetween {minInclusive maxExclusive : Int} (h : minInclusive < maxExclusive)
    (rng : DeterministicRandom) : ∃ n, (nextBetween minInclusive maxExclusive).run rng =
      some (n, advanced rng) ∧ minInclusive ≤ n ∧ n < maxExclusive := by
  have hlt := Nat.mod_lt (output rng).toNat (show 0 < (maxExclusive - minInclusive).toNat by omega)
  exact ⟨_, run_nextBetween_eq h rng, by omega, by omega⟩

theorem nextBetween_total {minInclusive maxExclusive : Int} (h : minInclusive < maxExclusive) :
    Total (nextBetween minInclusive maxExclusive) :=
  fun rng => ⟨_, _, run_nextBetween_eq h rng⟩

theorem nextBetween_ensures {minInclusive maxExclusive : Int} (h : minInclusive < maxExclusive) :
    Ensures (nextBetween minInclusive maxExclusive) fun n =>
      minInclusive ≤ n ∧ n < maxExclusive := by
  intro rng n rng' hrun
  obtain ⟨_, hdrawn, hbetween⟩ := run_nextBetween h rng
  cases hrun.symm.trans hdrawn
  exact hbetween

theorem run_pick {α : Type} {items : List α} (h : items ≠ []) (rng : DeterministicRandom) :
    ∃ a, (pick items).run rng = some (a, advanced rng) ∧
      items[(output rng).toNat % items.length]? = some a := by
  have hpos : 0 < items.length := List.length_pos_iff.mpr h
  have hlt := Nat.mod_lt (output rng).toNat hpos
  refine ⟨items[(output rng).toNat % items.length], ?_, List.getElem?_eq_getElem hlt⟩
  unfold pick
  rw [StateT.run_bind, run_next (by omega)]
  exact run_ofOption_eq_some.mpr ⟨List.getElem?_eq_getElem hlt, rfl⟩

theorem run_pick_eq_some {α : Type} {items : List α} {rng rng' : DeterministicRandom} {a : α} :
    (pick items).run rng = some (a, rng') ↔
      items[(output rng).toNat % items.length]? = some a ∧ rng' = advanced rng := by
  rcases eq_or_ne items [] with rfl | hne
  · exact ⟨nofun, nofun⟩
  · obtain ⟨b, hrun, hb⟩ := run_pick hne rng
    rw [hrun, hb]
    constructor
    · rintro ⟨⟩
      exact ⟨rfl, rfl⟩
    · rintro ⟨⟨⟩, rfl⟩
      rfl

theorem pick_total {α : Type} {items : List α} (h : items ≠ []) : Total (pick items) := by
  intro rng
  obtain ⟨a, hrun, _⟩ := run_pick h rng
  exact ⟨a, _, hrun⟩

theorem pick_ensures {α : Type} (items : List α) : Ensures (pick items) (· ∈ items) :=
  fun _ _ _ hrun => List.mem_of_getElem? (run_pick_eq_some.mp hrun).1

theorem run_nextDouble (rng : DeterministicRandom) :
    ∃ x, nextDouble.run rng = some (x, advanced rng) ∧ 0 ≤ x.toRat ∧ x.toRat ≤ 1 := by
  refine ⟨(Double.ofRat (output rng >>> 11).toNat).mul (.div (.ofRat 1) (.ofRat 9007199254740992)),
    rfl, ?_⟩
  have hunit : (Double.div (.ofRat 1) (.ofRat 9007199254740992)).toRat = 1 / 2 ^ 53 := by
    decide +kernel
  have hshift : (output rng >>> 11).toNat ≤ 2 ^ 53 := by
    have hlt := (output rng).toNat_lt
    rw [UInt64.toNat_shiftRight, Nat.shiftRight_eq_div_pow]
    exact Nat.div_le_of_le_mul (le_of_lt hlt)
  obtain ⟨hnonneg, hle⟩ := Double.toRat_ofRat_le (q := (output rng >>> 11).toNat) (k := 53)
    (by decide) (Nat.cast_nonneg _) (by exact_mod_cast hshift)
  have hproduct := Double.toRat_ofRat_le (q := (Double.ofRat (output rng >>> 11).toNat).toRat *
    (1 / 2 ^ 53)) (k := 0) (by decide) (by positivity) (by linarith)
  rw [pow_zero] at hproduct
  rw [Double.mul, hunit]
  exact hproduct

theorem nextBool_total (probability : Double) : Total (nextBool probability) :=
  fun _ => ⟨_, _, rfl⟩

theorem xorshift_injective : Function.Injective xorshift := by
  have hright {n : Nat} (hn : 0 < n) {x y : BitVec 64} (h : x ^^^ x >>> n = y ^^^ y >>> n) : x = y :=
    Xorshift.xor_shiftRight_injective hn h
  have hleft {n : Nat} (hn : 0 < n) {x y : BitVec 64} (h : x ^^^ x <<< n = y ^^^ y <<< n) : x = y :=
    Xorshift.xor_shiftLeft_injective hn h
  intro x y h
  apply UInt64.toBitVec_inj.mp
  have hbits := congrArg UInt64.toBitVec h
  exact hright (n := 12) (by decide) (hleft (n := 25) (by decide) (hright (n := 27) (by decide) hbits))

theorem mul_multiplier_injective : Function.Injective (· * multiplier) := by
  intro x y h
  apply UInt64.toBitVec_inj.mp
  exact Xorshift.mul_odd_injective (m := multiplier.toBitVec) (by decide) (congrArg UInt64.toBitVec h)

theorem xorshift_ne_zero {x : UInt64} (h : x ≠ 0) : xorshift x ≠ 0 :=
  fun hzero => h (xorshift_injective hzero)

theorem new_ne_zero (seed : UInt64) : (new seed).state ≠ 0 := by
  unfold new
  dsimp only
  split
  · decide
  · assumption

theorem nextUInt64_ne_zero {rng rng' : DeterministicRandom} {u : UInt64} (h : rng.state ≠ 0)
    (hdraw : nextUInt64.run rng = some (u, rng')) : u ≠ 0 ∧ rng'.state ≠ 0 := by
  cases hdraw
  refine ⟨?_, xorshift_ne_zero h⟩
  intro hzero
  apply xorshift_ne_zero h
  apply mul_multiplier_injective
  change xorshift rng.state * multiplier = 0 * multiplier
  rw [hzero]
  rfl

/-- What `count` draws give, with the state after them. -/
def drawn (count : Nat) (rng : DeterministicRandom) : Option (List UInt64 × DeterministicRandom) :=
  (collect (fun _ => nextUInt64) count 0).run rng

theorem drawn_ne_zero {rng : DeterministicRandom} (h : rng.state ≠ 0) (count : Nat) :
    ∃ outputs rng', drawn count rng = some (outputs, rng') ∧ outputs.length = count ∧
      rng'.state ≠ 0 ∧ 0 ∉ outputs := by
  have hdraw (i : Nat) (rng : DeterministicRandom) (hrng : rng.state ≠ 0) :
      ∃ u rng', nextUInt64.run rng = some (u, rng') ∧ rng'.state ≠ 0 :=
    ⟨_, _, run_nextUInt64 rng, xorshift_ne_zero hrng⟩
  obtain ⟨outputs, rng', hdrawn, hstate⟩ := collect_total hdraw count 0 h
  refine ⟨outputs, rng', hdrawn, length_of_collect hdrawn, hstate, ?_⟩
  intro hmem
  obtain ⟨i, hi⟩ := List.mem_iff_getElem?.mp hmem
  have hspec := collect_spec (I := fun rng => rng.state ≠ 0) (P := fun _ u => u ≠ 0)
    (fun _ _ _ _ hrng hu => nextUInt64_ne_zero hrng hu) h hdrawn
  exact hspec.1 i 0 hi rfl

/-- From no seed and no stream does any number of draws lead to zero: the step loses nothing,
and zero is where it stays. -/
theorem never_zero (seed : UInt64) (streamName : Text) (count : Nat) :
    (∀ rng ∈ [new seed, forStream seed streamName], ∃ outputs rng',
      drawn count rng = some (outputs, rng') ∧ outputs.length = count ∧ rng'.state ≠ 0 ∧
        0 ∉ outputs) ∧
    Function.Injective xorshift ∧ multiplier.toNat % 2 = 1 := by
  refine ⟨?_, xorshift_injective, by decide⟩
  intro rng hrng
  rcases List.mem_pair.mp hrng with rfl | rfl
  · exact drawn_ne_zero (new_ne_zero seed) count
  · exact drawn_ne_zero (new_ne_zero _) count

end DeterministicRandom

end Fcmr.DemoData
