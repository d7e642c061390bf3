/-
# Outbound.Proofs.Text.Case — upper case makes letters only, and stays

A character that has another upper case becomes one or more characters, none of
which comes before the letter `A` (`le_of_mem_upperExpansions`,
`le_of_caseMapped_upperRuns`); all others stay.  So digits, punctuation and line ends
that an upper-case text holds were there before (`mem_of_mem_upper`).

None of the characters that come out has another upper case (`avoids_upperPoints`,
by comparing the runs of the table with each other), so a text in upper case is its
own upper case (`upper_upper`).
-/
import Outbound.Text.Case

namespace Outbound.Text

set_option autoImplicit false

/-! ## The tables -/

/-- Upper-case expansions begin with the letter `A` or after it. -/
theorem le_of_mem_upperExpansions {n m : Nat} {expansion : List Nat}
    (found : upperExpansions.lookup n = some expansion) (mem : m ∈ expansion) :
    'A'.toNat ≤ m := by
  have all : ∀ entry ∈ upperExpansions, ∀ m ∈ entry.2, 'A'.toNat ≤ m := by decide +kernel
  obtain ⟨before, after, entries, -⟩ := List.lookup_eq_some_iff.1 found
  exact all (n, expansion) (entries ▸ by simp) m mem

/-- A code point that a run moves is not moved before the letter `A`. -/
theorem le_of_caseMapped_upperRuns {n : Nat} (moved : caseMapped upperRuns n ≠ n) :
    'A'.toNat ≤ caseMapped upperRuns n := by
  have all : ∀ run ∈ upperRuns, ('A'.toNat : Int) ≤ run.1 + run.2.2.2 := by decide +kernel
  unfold caseMapped at moved ⊢
  cases found : caseShift? upperRuns n with
  | none =>
      rw [found] at moved
      exact absurd rfl moved
  | some shift =>
      obtain ⟨run, isRun, rfl⟩ := Option.map_eq_some_iff.1 found
      have within := List.find?_some isRun
      simp only [Bool.and_eq_true, decide_eq_true_eq] at within
      have first := all run (List.mem_of_find?_eq_some isRun)
      have start := within.1.1
      simp only [Int.ofNat_eq_natCast]
      omega

/-! ## Texts -/

/-- A character other than the one that stands for no code point comes from its code point. -/
theorem toNat_of_ofNat {n : Nat} {c : Char} (positive : 0 < c.toNat) (same : Char.ofNat n = c) :
    n = c.toNat := by
  subst same
  by_cases valid : n.isValidChar
  · rw [Char.ofNat, dif_pos valid]
    rfl
  · rw [Char.ofNat, dif_neg valid] at positive
    cases positive

/-- A character before the letter `A` is the upper case of itself only. -/
theorem eq_of_mem_upperChar {c d : Char} (positive : 0 < c.toNat) (below : c.toNat < 'A'.toNat)
    (mem : c ∈ upperChar d) : c = d := by
  unfold upperChar at mem
  split at mem
  · rename_i plain
    have all : ∀ n < 0x80, 'A'.toNat ≤ (Char.ofNat n).toUpper.toNat ∨
        (Char.ofNat n).toUpper = Char.ofNat n := by decide +kernel
    have either := all d.toNat plain
    rw [Char.ofNat_toNat] at either
    obtain rfl := List.mem_singleton.1 mem
    exact either.resolve_left (Nat.not_le.2 below)
  · split at mem
    · rename_i expansion found
      obtain ⟨m, isPart, same⟩ := List.mem_map.1 mem
      have least := le_of_mem_upperExpansions found isPart
      have := toNat_of_ofNat positive same
      omega
    · have same := (List.mem_singleton.1 mem).symm
      have point := toNat_of_ofNat positive same
      by_cases moved : caseMapped upperRuns d.toNat = d.toNat
      · rw [moved] at point
        exact Char.toNat_inj.1 point.symm
      · have least := le_of_caseMapped_upperRuns moved
        omega

/-- What an upper-case text holds before the letter `A` was in the text. -/
theorem mem_of_mem_upper {c : Char} {s : String} (positive : 0 < c.toNat)
    (below : c.toNat < 'A'.toNat) (mem : c ∈ (upper s).toList) : c ∈ s.toList := by
  rw [upper, String.toList_ofList] at mem
  obtain ⟨d, isPart, mem⟩ := List.mem_flatMap.1 mem
  exact eq_of_mem_upperChar positive below mem ▸ isPart

/-! ## Code points that stay -/

def CaseRun.Holds (run : CaseRun) (n : Nat) : Prop :=
  run.1 ≤ n ∧ n ≤ run.2.1 ∧ (n - run.1) % run.2.2.1 = 0

/-- The code points that have another upper case, those with several characters for it as runs by
themselves. -/
def upperPoints : List CaseRun :=
  upperRuns ++ upperExpansions.map fun entry => (entry.1, entry.1, 1, 0)

/-- Where the code points with another upper case are moved to, by runs. -/
def upperLandings : List CaseRun :=
  upperRuns ++ (upperExpansions.flatMap (·.2)).eraseDups.map fun n => (n, n, 1, 0)

/-- The points of `run` are moved in front of `other`, behind it, or between its points, which are
two apart. -/
def CaseRun.avoids (run other : CaseRun) : Bool :=
  let first := (run.1 + run.2.2.2).toNat
  let last := (run.2.1 + run.2.2.2).toNat
  Nat.blt last other.1 || Nat.blt other.2.1 first ||
    (other.2.2.1 == 2 && (run.2.2.1 == 2 || first == last) && (first + other.1) % 2 == 1)

/-- No code point is moved to one that has another upper case. -/
theorem avoids_upperPoints : (upperLandings.all fun run => upperPoints.all run.avoids) = true := by
  decide +kernel

/-- No code point is moved below zero. -/
theorem nonneg_of_upperLandings : ∀ run ∈ upperLandings, 0 ≤ run.1 + run.2.2.2 := by
  decide +kernel

theorem CaseRun.not_holds_of_avoids {run other : CaseRun} (apart : run.avoids other = true)
    (nonneg : 0 ≤ run.1 + run.2.2.2) {n m : Nat} (holds : run.Holds n)
    (moved : (m : Int) = n + run.2.2.2) : ¬ other.Holds m := by
  obtain ⟨start, stop, step, shift⟩ := run
  obtain ⟨start', stop', step', shift'⟩ := other
  rintro ⟨above, below, point⟩
  obtain ⟨fromStart, toStop, onStep⟩ := holds
  simp only [avoids, Bool.or_eq_true, Bool.and_eq_true, Nat.blt_eq, beq_iff_eq] at *
  obtain (front | behind) | ⟨⟨rfl, rfl | single⟩, odd⟩ := apart
  · omega
  · omega
  · omega
  · omega

/-- A character whose code point has no other upper case is its own. -/
theorem upperChar_of_not_holds {c : Char} (stays : ∀ run ∈ upperPoints, ¬ run.Holds c.toNat) :
    upperChar c = [c] := by
  have runs : ∀ run ∈ upperRuns, ¬ run.Holds c.toNat := fun run mem =>
    stays run (List.mem_append_left _ mem)
  have unlisted : upperExpansions.lookup c.toNat = none := by
    rw [List.lookup_eq_none_iff]
    intro entry mem
    have other := stays (entry.1, entry.1, 1, 0)
      (List.mem_append_right _ (List.mem_map.2 ⟨entry, mem, rfl⟩))
    rw [bne_iff_ne]
    intro same
    exact other ⟨same ▸ Nat.le_refl _, same ▸ Nat.le_refl _, Nat.mod_one _⟩
  have shiftless : caseShift? upperRuns c.toNat = none := by
    rw [caseShift?, Option.map_eq_none_iff, List.find?_eq_none]
    intro run mem
    have other := runs run mem
    simpa [CaseRun.Holds, and_assoc] using other
  rw [upperChar]
  split
  · rename_i ascii
    have lower := runs (0x61, 0x7A, 1, -32) (by decide)
    have all : ∀ n < 0x80, (0x61 ≤ n ∧ n ≤ 0x7A) ∨ (Char.ofNat n).toUpper = Char.ofNat n := by
      decide +kernel
    have either := all c.toNat ascii
    rw [Char.ofNat_toNat] at either
    rw [either.resolve_left fun range => lower ⟨range.1, range.2, Nat.mod_one _⟩]
  · rw [unlisted, caseMapped, shiftless]
    exact congrArg (fun c => [c]) (Char.ofNat_toNat c)

/-- The character of a number has it for its code point, or zero. -/
theorem toNat_ofNat_or (n : Nat) : (Char.ofNat n).toNat = n ∨ (Char.ofNat n).toNat = 0 := by
  by_cases positive : 0 < (Char.ofNat n).toNat
  · exact .inl (toNat_of_ofNat positive rfl).symm
  · omega

/-- Where a run moves a code point to, there is upper case. -/
theorem upperChar_of_landing {run : CaseRun} (mem : run ∈ upperLandings) {n m : Nat}
    (holds : run.Holds n) (moved : (m : Int) = n + run.2.2.2) :
    upperChar (Char.ofNat m) = [Char.ofNat m] := by
  apply upperChar_of_not_holds
  intro other isPoint
  rcases toNat_ofNat_or m with same | none
  · rw [same]
    have avoids := List.all_eq_true.1 (List.all_eq_true.1 avoids_upperPoints run mem) other isPoint
    exact CaseRun.not_holds_of_avoids avoids (nonneg_of_upperLandings run mem) holds moved
  · rw [none]
    have positive : ∀ run ∈ upperPoints, 0 < run.1 := by decide +kernel
    have above := positive other isPoint
    rintro ⟨below, -⟩
    omega

/-- What a character becomes in upper case is upper case. -/
theorem upperChar_of_mem_upperChar {c d : Char} (mem : d ∈ upperChar c) : upperChar d = [d] := by
  unfold upperChar at mem
  split at mem
  · rename_i ascii
    have all : ∀ n < 0x80, upperChar (Char.ofNat n).toUpper = [(Char.ofNat n).toUpper] := by
      decide +kernel
    have own := all c.toNat ascii
    rw [Char.ofNat_toNat] at own
    rw [List.mem_singleton.1 mem, own]
  · rename_i beyond
    split at mem
    · rename_i expansion found
      obtain ⟨m, isPart, rfl⟩ := List.mem_map.1 mem
      obtain ⟨before, after, entries, -⟩ := List.lookup_eq_some_iff.1 found
      have target : m ∈ upperExpansions.flatMap (·.2) := by
        rw [entries]
        simp [isPart]
      have landing : (m, m, 1, 0) ∈ upperLandings :=
        List.mem_append_right _ (List.mem_map.2 ⟨m, List.mem_eraseDups.2 target, rfl⟩)
      have still : CaseRun.Holds (m, m, 1, 0) m := ⟨Nat.le_refl m, Nat.le_refl m, Nat.mod_one _⟩
      exact upperChar_of_landing landing still (by simp)
    · rename_i unlisted
      obtain rfl := List.mem_singleton.1 mem
      unfold caseMapped
      cases found : caseShift? upperRuns c.toNat with
      | none =>
          have same : upperChar c = [c] := by
            rw [upperChar, if_neg beyond]
            simp only [unlisted, caseMapped, found]
            exact congrArg (fun c => [c]) (Char.ofNat_toNat c)
          rw [Char.ofNat_toNat]
          exact same
      | some shift =>
          obtain ⟨run, isRun, rfl⟩ := Option.map_eq_some_iff.1 found
          have isPoint := List.mem_of_find?_eq_some isRun
          have landing : run ∈ upperLandings := List.mem_append_left _ isPoint
          have within := List.find?_some isRun
          simp only [Bool.and_eq_true, decide_eq_true_eq, beq_iff_eq] at within
          have nonneg := nonneg_of_upperLandings run landing
          have start := within.1.1
          apply upperChar_of_landing landing ⟨within.1.1, within.1.2, within.2⟩
          simp only [Int.ofNat_eq_natCast]
          omega

/-- **A text in upper case is its own upper case.** -/
@[simp] theorem upper_upper (s : String) : upper (upper s) = upper s := by
  rw [upper, upper, String.toList_ofList, List.flatMap_assoc]
  have each : ∀ c, (upperChar c).flatMap upperChar = upperChar c := by
    intro c
    rw [List.flatMap_def, List.map_congr_left fun d mem => upperChar_of_mem_upperChar mem]
    exact List.flatMap_singleton' _
  simp only [each]

end Outbound.Text
