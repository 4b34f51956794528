import PageComposer.Text.Surrogate

/-!
# Texts with surrogates on their own

A text can be encoded unless it holds a surrogate on its own: putting quoted surrogates back
in place of quoted stand-ins writes nothing but assigned characters, and leaves the stand-ins
that are not quoted where they are.
-/

namespace PageComposer.Text

variable {standIns : Option StandIns} {text : String}

/-- A text of assigned characters holds no surrogate, whatever stands in for surrogates. -/
theorem holdsSurrogate_of_assigned (standIns : Option StandIns)
    (assigned : ∀ char ∈ text.toList, char.toNat < 0x40000) :
    holdsSurrogate standIns text = false := by
  cases standIns with
  | none => rfl
  | some standIns =>
      simp only [holdsSurrogate, Option.any_some, List.any_eq_false]
      intro char member
      simp [standIns.surrogateOf?_of_lt (assigned char member)]

/-! ### Quoted surrogates are assigned characters -/

theorem toNat_lt_of_mem_hexDigits {width number : Nat} {char : Char}
    (member : char ∈ hexDigits width number) : char.toNat < 0x40000 := by
  induction width generalizing number with
  | zero => simp [hexDigits] at member
  | succ width induction =>
      simp only [hexDigits, List.mem_append, List.mem_singleton] at member
      rcases member with before | rfl
      · exact induction before
      · have small : ∀ digit < 16, (hexDigit digit).toNat < 0x40000 := by decide
        exact small _ (Nat.mod_lt _ (by decide))

theorem toNat_lt_of_hexValue? {char : Char} {value : Nat} (digit : hexValue? char = some value) :
    char.toNat < 0x40000 := by
  have below {bound : Char} (atMost : char ≤ bound) (small : bound.toNat < 0x40000) :
      char.toNat < 0x40000 := Nat.lt_of_le_of_lt atMost small
  unfold hexValue? at digit
  split at digit
  · rename_i range
    simp only [Bool.and_eq_true, decide_eq_true_eq] at range
    exact below range.2 (by decide)
  · split at digit
    · rename_i range
      simp only [Bool.and_eq_true, decide_eq_true_eq] at range
      exact below range.2 (by decide)
    · split at digit
      · rename_i range
        simp only [Bool.and_eq_true, decide_eq_true_eq] at range
        exact below range.2 (by decide)
      · simp at digit

theorem toNat_lt_of_hexNumber? {before value : Nat} {chars : List Char}
    (digits : hexNumber? before chars = some value) : ∀ char ∈ chars, char.toNat < 0x40000 := by
  induction chars generalizing before with
  | nil => simp
  | cons char rest induction =>
      simp only [hexNumber?, Option.bind_eq_bind, Option.bind_eq_some_iff] at digits
      obtain ⟨first, digit, others⟩ := digits
      exact List.forall_mem_cons.mpr ⟨toNat_lt_of_hexValue? digit, induction others⟩

namespace StandIns

/-- A long escape is nine assigned characters. -/
theorem exists_of_longEscape? {chars : List Char} {code : Nat}
    (escape : longEscape? chars = some code) :
    ∃ written rest, chars = written ++ rest ∧ written.length = 9 ∧
      ∀ char ∈ written, char.toNat < 0x40000 := by
  unfold longEscape? at escape
  split at escape
  · rename_i a b c d e f g h rest
    exact ⟨['U', a, b, c, d, e, f, g, h], rest, rfl, rfl,
      List.forall_mem_cons.mpr ⟨by decide, toNat_lt_of_hexNumber? escape⟩⟩
  · simp at escape

variable {standIns : StandIns} {char : Char} {chars : List Char}

theorem ne_of_assigned (standsIn : (standIns.surrogateOf? char).isSome) {other : Char}
    (assigned : other.toNat < 0x40000) : char ≠ other := by
  rintro rfl
  simp [standIns.surrogateOf?_of_lt assigned] at standsIn

theorem mem_append_assigned_iff (standsIn : (standIns.surrogateOf? char).isSome)
    {written : List Char} (assigned : ∀ other ∈ written, other.toNat < 0x40000) :
    char ∈ written ++ chars ↔ char ∈ chars := by
  have absent : char ∉ written := fun member =>
    ne_of_assigned standsIn (assigned char member) rfl
  simp [absent]

/-- The stand-ins that are not quoted stay, and none is added. -/
theorem mem_restoredFrom_iff (standsIn : (standIns.surrogateOf? char).isSome) (skipped : Nat) :
    char ∈ restoredFrom standIns skipped chars ↔ char ∈ chars.drop skipped := by
  induction chars generalizing skipped with
  | nil => simp [restoredFrom]
  | cons first rest induction =>
      have notSlash : char ≠ '\\' := ne_of_assigned standsIn (by decide)
      have notLetter : char ≠ 'u' := ne_of_assigned standsIn (by decide)
      unfold restoredFrom
      split
      · rw [List.drop_succ_cons, induction]
      · rename_i code escape
        obtain ⟨written, behind, rfl, long, assigned⟩ := exists_of_longEscape? escape
        split
        · simp only [List.mem_cons, notSlash, notLetter, false_or, List.drop_zero]
          rw [mem_append_assigned_iff standsIn fun _ => toNat_lt_of_mem_hexDigits, induction 9,
            ← long, List.drop_left, mem_append_assigned_iff standsIn assigned]
        · simp [induction 0]
      · simp [induction 0]

end StandIns

/-! ### What can be encoded -/

theorem surrogateRun?_eq_none_iff {standIns : StandIns} {index : Nat} {chars : List Char} :
    surrogateRun? standIns index chars = none ↔
      ∀ char ∈ chars, standIns.surrogateOf? char = none := by
  induction chars generalizing index with
  | nil => simp [surrogateRun?]
  | cons char rest induction =>
      cases read : standIns.surrogateOf? char <;> simp [surrogateRun?, read, induction]

theorem holdsSurrogate_restored (standIns : StandIns) (text : String) :
    holdsSurrogate (some standIns) (standIns.restored text) =
      holdsSurrogate (some standIns) text := by
  rw [Bool.eq_iff_iff]
  simp only [holdsSurrogate, Option.any_some, StandIns.restored, String.toList_ofList,
    List.any_eq_true]
  refine exists_congr fun char => and_congr_left fun standsIn => ?_
  rw [StandIns.mem_restoredFrom_iff standsIn, List.drop_zero]

/-- A text is encoded just when it holds no surrogate on its own. -/
theorem encoded_eq_error_iff :
    (∃ run, encoded standIns text = .error run) ↔ holdsSurrogate standIns text = true := by
  cases standIns with
  | none => simp [encoded, holdsSurrogate]
  | some standIns =>
      rw [← holdsSurrogate_restored, encoded]
      cases found : surrogateRun? standIns 0 (standIns.restored text).toList with
      | none =>
          simpa [holdsSurrogate] using surrogateRun?_eq_none_iff.mp found
      | some run =>
          have broken : ¬ ∀ char ∈ (standIns.restored text).toList,
              standIns.surrogateOf? char = none := by
            rw [← @surrogateRun?_eq_none_iff standIns 0, found]
            exact Option.some_ne_none run
          simpa [holdsSurrogate, ← Option.isSome_iff_ne_none] using broken

theorem encoded_ok_iff :
    (∃ sent, encoded standIns text = .ok sent) ↔ holdsSurrogate standIns text = false := by
  rw [← Bool.not_eq_true, ← encoded_eq_error_iff]
  cases encoded standIns text <;> simp

end PageComposer.Text
