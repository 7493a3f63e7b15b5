import ArrowGraph.Proofs.Token.Cut

namespace ArrowGraph.Token

variable {kind : TokenKind} {cs lexeme rest part : List Char} {column : Nat}

theorem firstLexeme_within (found : firstLexeme cs = some (kind, lexeme, rest))
    (within : part <+: rest) : firstLexeme (lexeme ++ part) = some (kind, lexeme, part) := by
  refine firstLexeme_append (spells_of_firstLexeme found) fun c next => ?_
  obtain ⟨after, rfl⟩ := within
  exact stops_of_firstLexeme found c (List.mem_head?_append_of_mem_head? next)

theorem firstLexeme_eq_none_within (stuck : firstLexeme cs = none) (within : part <+: cs) :
    firstLexeme part = none := by
  obtain ⟨after, rfl⟩ := within
  fun_cases firstLexeme part with
  | case1 | case9 => rfl
  | case2 | case3 | case4 | case5 | case6 => cases stuck
  | case7 c cs _ _ _ _ _ letter =>
    rw [List.cons_append, firstLexeme_run (noSign_of_isLabelChar letter), if_pos letter] at stuck
    cases stuck
  | case8 c cs _ _ _ _ _ noLetter blank =>
    rw [List.cons_append, firstLexeme_run (noSign_of_isBlank blank), if_neg noLetter,
      if_pos blank] at stuck
    cases stuck

theorem scanFrom_of_none (nonempty : cs ≠ []) (stuck : firstLexeme cs = none) :
    scanFrom column cs = .error ⟨String.ofList cs, column⟩ := by
  have some_left : cs.isEmpty = false := by simpa using nonempty
  rw [scanFrom, some_left, if_neg Bool.false_ne_true]
  split
  · rfl
  · rename_i found
    cases stuck.symm.trans found

/-- What is read before the fault is read in the same way before any part of what comes after. -/
theorem stuck_of_scanFrom {e : ScanError} (broken : scanFrom column cs = .error e) :
    ∃ read stuck ts, cs = read ++ stuck ∧ stuck ≠ [] ∧ firstLexeme stuck = none ∧
      e = ⟨String.ofList stuck, column + read.length⟩ ∧
      ∀ part, part <+: stuck →
        scanFrom column (read ++ part) = (ts ++ ·) <$> scanFrom (column + read.length) part := by
  fun_induction scanFrom column cs with
  | case1 => cases broken
  | case2 column cs nonempty stuck =>
    cases broken
    refine ⟨[], cs, [], rfl, by simpa using nonempty, stuck, rfl, fun part _ => ?_⟩
    simp
  | case3 column cs _ kind lexeme rest found ih =>
    obtain ⟨read, stuck, ts, rfl, nonempty, nothing, rfl, same⟩ := ih (map_eq_error_iff.mp broken)
    have place : column + lexeme.length + read.length = column + (lexeme ++ read).length := by
      rw [List.length_append, Nat.add_assoc]
    refine ⟨lexeme ++ read, stuck, ⟨kind, String.ofList lexeme, column⟩ :: ts, ?_, nonempty,
      nothing, by rw [place], fun part within => ?_⟩
    · rw [List.append_assoc]
      exact (split_of_firstLexeme found).1.symm
    · have first : firstLexeme (lexeme ++ (read ++ part)) = some (kind, lexeme, read ++ part) :=
        firstLexeme_within found ((List.prefix_append_right_inj read).mpr within)
      rw [List.append_assoc, scanFrom_cons first, same part within, place, Functor.map_map]
      rfl

/-- The text can be scanned up to the fault, and not with any more of it. -/
theorem scanFrom_to_fault {e : ScanError} (broken : scanFrom column cs = .error e) :
    ∃ read stuck, cs = read ++ stuck ∧ stuck ≠ [] ∧
      e = ⟨String.ofList stuck, column + read.length⟩ ∧
      (∃ ts, scanFrom column read = .ok ts) ∧
      ∀ part, part ≠ [] → part <+: stuck → ∃ e, scanFrom column (read ++ part) = .error e := by
  obtain ⟨read, stuck, ts, whole, nonempty, nothing, same, before⟩ := stuck_of_scanFrom broken
  refine ⟨read, stuck, whole, nonempty, same, ⟨ts, ?_⟩, fun part some_part within => ?_⟩
  · have ends : scanFrom (column + read.length) [] = .ok [] := by
      rw [scanFrom]
      rfl
    have here := before [] List.nil_prefix
    rw [ends, List.append_nil] at here
    rw [here]
    simp [Functor.map, Except.map]
  · have noToken := firstLexeme_eq_none_within nothing within
    rw [before part within, scanFrom_of_none some_part noToken]
    exact ⟨_, rfl⟩

/-- A fault is found just after the longest beginning of the text that can be scanned. -/
theorem scan_error_after_longest {text : String} {e : ScanError} (broken : scan text = .error e) :
    ∃ read : String, text = read ++ e.remainder ∧ e.remainder ≠ "" ∧ e.column = read.length + 1 ∧
      (∃ ts, scan read = .ok ts) ∧
      ∀ longer rest : String, text = longer ++ rest → read.length < longer.length →
        ¬ ∃ ts, scan longer = .ok ts := by
  obtain ⟨read, stuck, whole, nonempty, rfl, scans, fails⟩ := scanFrom_to_fault broken
  refine ⟨String.ofList read, ?_, ?_, ?_, ?_, ?_⟩
  · apply String.toList_injective
    simpa using whole
  · simpa using nonempty
  · simp [Nat.add_comm]
  · rwa [scan, String.toList_ofList]
  · rintro longer rest split more ⟨us, scanned⟩
    rw [String.length_ofList, ← String.length_toList] at more
    have chars : read ++ stuck = longer.toList ++ rest.toList := by
      rw [← whole, split, String.toList_append]
    rcases List.append_eq_append_iff.mp chars with ⟨part, beyond, within⟩ | ⟨part, short, _⟩
    · rw [beyond, List.length_append] at more
      have some_part : part ≠ [] := List.ne_nil_of_length_pos (by omega)
      obtain ⟨e, fault⟩ := fails part some_part ⟨rest.toList, within.symm⟩
      rw [← beyond] at fault
      cases fault.symm.trans scanned
    · rw [short, List.length_append] at more
      omega

/-- A dash alone is no token, but the dash before it belongs to one. The text can be scanned up to
there, and neither with the dash nor with more of the text. -/
theorem scan_error_after_longest_dash :
    scan "a'---b" = .error ⟨"-b", 5⟩ ∧ (∃ ts, scan "a'--" = .ok ts) ∧
      ∀ longer rest : String, "a'---b" = longer ++ rest → 4 < longer.length →
        ¬ ∃ ts, scan longer = .ok ts := by
  have broken : scan "a'---b" = .error ⟨"-b", 5⟩ := by decide +kernel
  obtain ⟨read, whole, _, column, scans, longest⟩ := scan_error_after_longest broken
  obtain rfl : read = "a'--" := (String.append_left_inj "-b").mp (whole.symm.trans rfl)
  exact ⟨broken, scans, longest⟩

end ArrowGraph.Token
