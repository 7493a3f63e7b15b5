import ArrowGraph.Proofs.Outcome
import ArrowGraph.Token
import Mathlib.Data.List.Chain
import Mathlib.Data.List.TakeWhile

/-! Spelled lexemes. A lexeme is a token without its place. A text that is put together from
well-spelled lexemes, no two of which run into each other, falls into exactly these lexemes. -/
namespace ArrowGraph

open Text (isBlank)
open Token (firstLexeme isLabelChar scan scanFrom)

structure Lexeme where
  kind : TokenKind
  text : String
  deriving DecidableEq

namespace TokenKind

def Spells : TokenKind → List Char → Prop
  | label, cs => cs ≠ [] ∧ ∀ c ∈ cs, isLabelChar c = true
  | blank, cs => cs ≠ [] ∧ ∀ c ∈ cs, isBlank c = true
  | colon, cs => cs = [':']
  | arrow, cs => cs = ['-', '>']
  | dot, cs => cs = ['.']
  | semicolon, cs => cs = [';']
  | route, cs => cs = ['-', '-']

/-- A token of the kind takes in the character if that comes next. -/
def takesIn : TokenKind → Char → Bool
  | label => isLabelChar
  | blank => isBlank
  | _ => fun _ => false

end TokenKind

theorem toNat_of_isLabelChar {c : Char} (letter : isLabelChar c = true) :
    c.toNat = 39 ∨ (65 ≤ c.toNat ∧ c.toNat ≤ 122) := by
  simp only [isLabelChar, Bool.or_eq_true, Bool.and_eq_true, decide_eq_true_eq, Char.le_def,
    UInt32.le_iff_toNat_le] at letter
  change (97 ≤ c.toNat ∧ c.toNat ≤ 122 ∨ 65 ≤ c.toNat ∧ c.toNat ≤ 90) ∨ c = '\'' at letter
  rcases letter with (lower | upper) | rfl
  · omega
  · omega
  · exact .inl rfl

theorem toNat_of_isBlank {c : Char} (blank : isBlank c = true) :
    (9 ≤ c.toNat ∧ c.toNat ≤ 32) ∨ 133 ≤ c.toNat := by
  simp only [isBlank, Bool.or_eq_true, Bool.and_eq_true, decide_eq_true_eq, beq_iff_eq] at blank
  omega

theorem isBlank_of_isLabelChar {c : Char} (letter : isLabelChar c = true) : isBlank c = false := by
  by_contra blank
  have low := toNat_of_isLabelChar letter
  have high := toNat_of_isBlank (Bool.not_eq_false _ ▸ blank)
  omega

theorem takeWhile_run {p : Char → Bool} {run rest : List Char} (inside : ∀ c ∈ run, p c = true)
    (stop : ∀ c ∈ rest.head?, p c = false) :
    (run ++ rest).takeWhile p = run ∧ (run ++ rest).dropWhile p = rest := by
  have ends : rest.takeWhile p = [] ∧ rest.dropWhile p = rest := by
    cases rest with
    | nil => exact ⟨rfl, rfl⟩
    | cons c rest => simp [stop c rfl]
  rw [List.takeWhile_append_of_pos inside, List.dropWhile_append_of_pos inside, ends.1, ends.2,
    List.append_nil]
  exact ⟨rfl, rfl⟩

theorem firstLexeme_run {c : Char} (noSign : c ∉ ['-', ':', '.', ';']) (cs : List Char) :
    firstLexeme (c :: cs) =
      if isLabelChar c then
        some (.label, c :: cs.takeWhile isLabelChar, cs.dropWhile isLabelChar)
      else if isBlank c then
        some (.blank, c :: cs.takeWhile isBlank, cs.dropWhile isBlank)
      else none := by
  unfold firstLexeme
  split
  case h_1 same => cases same
  case h_7 same =>
    cases same
    rfl
  all_goals
    rename_i same
    cases same
    exact absurd noSign (by decide)

theorem noSign_of_isLabelChar {c : Char} (letter : isLabelChar c = true) :
    c ∉ ['-', ':', '.', ';'] := by
  intro sign
  simp only [List.mem_cons, List.not_mem_nil, or_false] at sign
  rcases sign with rfl | rfl | rfl | rfl <;> exact absurd letter (by decide)

theorem noSign_of_isBlank {c : Char} (blank : isBlank c = true) : c ∉ ['-', ':', '.', ';'] := by
  intro sign
  simp only [List.mem_cons, List.not_mem_nil, or_false] at sign
  rcases sign with rfl | rfl | rfl | rfl <;> exact absurd blank (by decide)

/-- A well-spelled token is read off the front of a text, if it cannot take in what comes next. -/
theorem firstLexeme_append {kind : TokenKind} {lexeme rest : List Char} (spelled : kind.Spells lexeme)
    (stop : ∀ c ∈ rest.head?, kind.takesIn c = false) :
    firstLexeme (lexeme ++ rest) = some (kind, lexeme, rest) := by
  cases kind with
  | label =>
    obtain ⟨nonempty, letters⟩ := spelled
    cases lexeme with
    | nil => exact absurd rfl nonempty
    | cons c cs =>
      have letter := letters c (List.mem_cons_self ..)
      obtain ⟨taken, left⟩ :=
        takeWhile_run (fun d hd => letters d (List.mem_cons_of_mem _ hd)) stop
      rw [List.cons_append, firstLexeme_run (noSign_of_isLabelChar letter), if_pos letter]
      rw [taken, left]
  | blank =>
    obtain ⟨nonempty, blanks⟩ := spelled
    cases lexeme with
    | nil => exact absurd rfl nonempty
    | cons c cs =>
      have blank := blanks c (List.mem_cons_self ..)
      have noLetter : ¬ isLabelChar c = true := by
        intro letter
        rw [isBlank_of_isLabelChar letter] at blank
        cases blank
      obtain ⟨taken, left⟩ :=
        takeWhile_run (fun d hd => blanks d (List.mem_cons_of_mem _ hd)) stop
      rw [List.cons_append, firstLexeme_run (noSign_of_isBlank blank), if_neg noLetter, if_pos blank]
      rw [taken, left]
  | colon | arrow | dot | semicolon | route =>
    cases spelled
    rfl

theorem spells_of_firstLexeme {kind : TokenKind} {cs lexeme rest : List Char}
    (found : firstLexeme cs = some (kind, lexeme, rest)) : kind.Spells lexeme := by
  unfold firstLexeme at found
  split at found
  case h_1 => cases found
  case h_7 c cs _ _ _ _ _ =>
    split at found
    · rename_i letter
      cases found
      refine ⟨List.cons_ne_nil _ _, ?_⟩
      intro d member
      rcases List.mem_cons.mp member with rfl | later
      · exact letter
      · exact List.mem_takeWhile_imp later
    · split at found
      · rename_i blank
        cases found
        refine ⟨List.cons_ne_nil _ _, ?_⟩
        intro d member
        rcases List.mem_cons.mp member with rfl | later
        · exact blank
        · exact List.mem_takeWhile_imp later
      · cases found
  all_goals
    cases found
    rfl

namespace Token

theorem scanFrom_cons {column : Nat} {cs lexeme rest : List Char} {kind : TokenKind}
    (found : firstLexeme cs = some (kind, lexeme, rest)) :
    scanFrom column cs =
      (⟨kind, String.ofList lexeme, column⟩ :: ·) <$> scanFrom (column + lexeme.length) rest := by
  have nonempty : cs.isEmpty = false := by
    cases cs with
    | nil => cases found
    | cons => rfl
  rw [scanFrom, nonempty, if_neg Bool.false_ne_true]
  split
  · rename_i nothing
    rw [found] at nothing
    cases nothing
  · rename_i found'
    rw [found] at found'
    cases found'
    rfl

theorem spells_of_scanFrom {column : Nat} {cs : List Char} {ts : List Token}
    (scanned : scanFrom column cs = .ok ts) : ∀ t ∈ ts, t.kind.Spells t.text.toList := by
  fun_induction scanFrom column cs generalizing ts with
  | case1 => cases scanned; simp
  | case2 => cases scanned
  | case3 column cs _ kind lexeme rest found ih =>
    obtain ⟨us, tail, rfl⟩ := map_eq_ok_iff.mp scanned
    intro t member
    rcases List.mem_cons.mp member with rfl | later
    · simpa using spells_of_firstLexeme found
    · exact ih tail t later

def lexeme (t : Token) : Lexeme :=
  ⟨t.kind, t.text⟩

@[simp] theorem kind_lexeme (t : Token) : t.lexeme.kind = t.kind := rfl

end Token

namespace Lexeme

def Spelled (l : Lexeme) : Prop :=
  l.kind.Spells l.text.toList

/-- The second lexeme does not run into the first. -/
def Apart (l m : Lexeme) : Prop :=
  l.kind = m.kind → l.kind ≠ .label ∧ l.kind ≠ .blank

def written (ls : List Lexeme) : List Char :=
  ls.flatMap (·.text.toList)

@[simp] theorem written_nil : written [] = [] := rfl

@[simp] theorem written_cons (l : Lexeme) (ls : List Lexeme) :
    written (l :: ls) = l.text.toList ++ written ls := rfl

@[simp] theorem written_append (ls ms : List Lexeme) :
    written (ls ++ ms) = written ls ++ written ms :=
  List.flatMap_append

def significant (ls : List Lexeme) : List Lexeme :=
  ls.filter fun l => l.kind ≠ .blank

@[simp] theorem significant_append (ls ms : List Lexeme) :
    significant (ls ++ ms) = significant ls ++ significant ms :=
  List.filter_append ..

@[simp] theorem significant_cons_of_ne {l : Lexeme} (meaningful : l.kind ≠ .blank)
    (ls : List Lexeme) : significant (l :: ls) = l :: significant ls := by
  simp [significant, meaningful]

theorem significant_cons_of_blank {l : Lexeme} (blank : l.kind = .blank) (ls : List Lexeme) :
    significant (l :: ls) = significant ls := by
  simp [significant, blank]

theorem map_lexeme_significant (ts : List Token) :
    (Token.significant ts).map Token.lexeme = significant (ts.map Token.lexeme) := by
  rw [significant, List.filter_map]
  rfl

/-- Lexemes as the tokens of a text that starts at the given column. -/
def place (column : Nat) : List Lexeme → List Token
  | [] => []
  | l :: ls => ⟨l.kind, l.text, column⟩ :: place (column + l.text.toList.length) ls

theorem map_lexeme_place (column : Nat) (ls : List Lexeme) :
    (place column ls).map Token.lexeme = ls := by
  induction ls generalizing column with
  | nil => rfl
  | cons l ls ih => rw [place, List.map_cons, ih]; rfl

theorem kind_eq_of_takesIn {kind other : TokenKind} {c : Char} {cs : List Char}
    (spelled : kind.Spells (c :: cs)) (taken : other.takesIn c = true) :
    kind = other ∧ (other = .label ∨ other = .blank) := by
  cases other with
  | label =>
    cases kind with
    | label => exact ⟨rfl, .inl rfl⟩
    | blank =>
      have blank := spelled.2 c (List.mem_cons_self ..)
      rw [isBlank_of_isLabelChar taken] at blank
      cases blank
    | colon | arrow | dot | semicolon | route =>
      cases spelled
      cases taken
  | blank =>
    cases kind with
    | blank => exact ⟨rfl, .inr rfl⟩
    | label =>
      have letter := spelled.2 c (List.mem_cons_self ..)
      rw [TokenKind.takesIn, isBlank_of_isLabelChar letter] at taken
      cases taken
    | colon | arrow | dot | semicolon | route =>
      cases spelled
      cases taken
  | colon | arrow | dot | semicolon | route => cases taken

theorem nonempty_of_spells {kind : TokenKind} {cs : List Char} (spelled : kind.Spells cs) :
    cs ≠ [] := by
  cases kind with
  | label | blank => exact spelled.1
  | colon | arrow | dot | semicolon | route =>
    cases spelled
    exact List.cons_ne_nil _ _

/-- A text of well-spelled lexemes that stay apart falls into these lexemes. -/
theorem scanFrom_written {ls : List Lexeme} (column : Nat) (spelled : ∀ l ∈ ls, l.Spelled)
    (apart : ls.IsChain Apart) : scanFrom column (written ls) = .ok (place column ls) := by
  induction ls generalizing column with
  | nil => rw [written_nil, scanFrom]; rfl
  | cons l ls ih =>
    have stop : ∀ c ∈ (written ls).head?, l.kind.takesIn c = false := by
      intro c next
      cases ls with
      | nil => cases next
      | cons m ls =>
        have spelling := spelled m (by simp)
        by_contra taken
        cases chars : m.text.toList with
        | nil => exact nonempty_of_spells spelling chars
        | cons d ds =>
          obtain rfl : d = c := by simpa [chars] using next
          rw [Spelled, chars] at spelling
          obtain ⟨same, run⟩ := kind_eq_of_takesIn spelling (by simpa using taken)
          have separate := (List.isChain_cons_cons.mp apart).1 same.symm
          rcases run with label | blank
          · exact separate.1 label
          · exact separate.2 blank
    have first := firstLexeme_append (spelled l (List.mem_cons_self ..)) stop
    have rest := ih (column + l.text.toList.length)
      (fun m hm => spelled m (List.mem_cons_of_mem _ hm)) apart.tail
    rw [written_cons, Token.scanFrom_cons first, rest, String.ofList_toList]
    rfl

end Lexeme
end ArrowGraph
