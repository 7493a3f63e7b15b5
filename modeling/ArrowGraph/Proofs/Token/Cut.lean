import ArrowGraph.Proofs.Token.Spelled
import Mathlib.Algebra.GroupWithZero.Nat

namespace ArrowGraph

open Token (firstLexeme scan scanFrom)

namespace Token

structure Cut (text : String) (ts : List Token) : Prop where
  whole : String.join (ts.map Token.text) = text
  spelled : ∀ t ∈ ts, t.kind.Spells t.text.toList
  placed : ∀ (i : Nat) (t : Token), ts[i]? = some t →
    t.column = 1 + ((ts.take i).map (·.text.length)).sum
  apart : ts.IsChain fun t u =>
    ¬ (t.kind = .label ∧ u.kind = .label) ∧ ¬ (t.kind = .blank ∧ u.kind = .blank)

theorem apart_lexeme_iff {t u : Token} :
    t.lexeme.Apart u.lexeme ↔
      ¬ (t.kind = .label ∧ u.kind = .label) ∧ ¬ (t.kind = .blank ∧ u.kind = .blank) := by
  simp only [Lexeme.Apart, kind_lexeme]
  constructor
  · intro apart
    constructor
    · rintro ⟨first, second⟩
      exact (apart (first.trans second.symm)).1 first
    · rintro ⟨first, second⟩
      exact (apart (first.trans second.symm)).2 first
  · rintro ⟨noLabels, noBlanks⟩ same
    exact ⟨fun label => noLabels ⟨label, same ▸ label⟩, fun blank => noBlanks ⟨blank, same ▸ blank⟩⟩

theorem toList_join_text (ts : List Token) :
    (String.join (ts.map Token.text)).toList = Lexeme.written (ts.map lexeme) := by
  rw [String.toList_join, Lexeme.written, List.flatMap_map, List.flatMap_map]
  rfl

theorem stops_of_firstLexeme {kind : TokenKind} {cs lexeme rest : List Char}
    (found : firstLexeme cs = some (kind, lexeme, rest)) :
    ∀ c ∈ rest.head?, kind.takesIn c = false := by
  have stops (p : Char → Bool) (ds : List Char) : ∀ c ∈ (ds.dropWhile p).head?, p c = false := by
    intro c next
    have first := List.head?_dropWhile_not p ds
    rwa [Option.mem_def.mp next] at first
  unfold firstLexeme at found
  split at found
  case h_1 => cases found
  case h_7 c cs _ _ _ _ _ =>
    split at found
    · cases found
      exact stops _ cs
    · split at found
      · cases found
        exact stops _ cs
      · cases found
  all_goals
    cases found
    exact fun _ _ => rfl

theorem apart_of_stops {t u : Token} (spelled : u.kind.Spells u.text.toList)
    (stops : ∀ c ∈ u.text.toList.head?, t.kind.takesIn c = false) : t.lexeme.Apart u.lexeme := by
  have nonempty := Lexeme.nonempty_of_spells spelled
  obtain ⟨c, cs, chars⟩ := List.exists_cons_of_ne_nil nonempty
  have stop := stops c (by rw [chars]; rfl)
  rw [apart_lexeme_iff]
  constructor
  · rintro ⟨first, second⟩
    rw [second, chars] at spelled
    rw [first] at stop
    have letter := spelled.2 c (List.mem_cons_self ..)
    exact Bool.false_ne_true (stop.symm.trans letter)
  · rintro ⟨first, second⟩
    rw [second, chars] at spelled
    rw [first] at stop
    have blank := spelled.2 c (List.mem_cons_self ..)
    exact Bool.false_ne_true (stop.symm.trans blank)

theorem apart_of_scanFrom {column : Nat} {cs : List Char} {ts : List Token}
    (scanned : scanFrom column cs = .ok ts) : (ts.map lexeme).IsChain Lexeme.Apart := by
  fun_induction scanFrom column cs generalizing ts with
  | case1 => cases scanned; exact .nil
  | case2 => cases scanned
  | case3 column cs _ kind lexeme rest found ih =>
    obtain ⟨us, tail, rfl⟩ := map_eq_ok_iff.mp scanned
    rw [List.map_cons, List.isChain_cons]
    refine ⟨?_, ih tail⟩
    intro l next
    cases us with
    | nil => cases next
    | cons u us =>
      obtain rfl : u.lexeme = l := by simpa using next
      have spelled := spells_of_scanFrom tail u (List.mem_cons_self ..)
      refine apart_of_stops spelled fun c first => ?_
      refine stops_of_firstLexeme found c ?_
      rw [← flatMap_of_scanFrom tail, List.flatMap_cons]
      exact List.mem_head?_append_of_mem_head? first

theorem place_of_scanFrom {column : Nat} {cs : List Char} {ts : List Token}
    (scanned : scanFrom column cs = .ok ts) : Lexeme.place column (ts.map lexeme) = ts := by
  fun_induction scanFrom column cs generalizing ts with
  | case1 => cases scanned; rfl
  | case2 => cases scanned
  | case3 column cs _ kind lexeme rest found ih =>
    obtain ⟨us, tail, rfl⟩ := map_eq_ok_iff.mp scanned
    simp [Lexeme.place, Token.lexeme, ih tail]

/-- Tokens are placed one after another when each column is that of the start and the lengths
before it. -/
theorem place_eq_iff {column : Nat} {ts : List Token} :
    Lexeme.place column (ts.map lexeme) = ts ↔
      ∀ (i : Nat) (t : Token), ts[i]? = some t →
        t.column = column + ((ts.take i).map (·.text.length)).sum := by
  induction ts generalizing column with
  | nil => simp [Lexeme.place]
  | cons t ts ih =>
    rw [List.map_cons, Lexeme.place, List.cons.injEq, ih]
    constructor
    · rintro ⟨first, others⟩ i u here
      cases i with
      | zero =>
        obtain rfl : t = u := by simpa using here
        simpa [lexeme, eq_comm] using congrArg Token.column first
      | succ i =>
        have later := others i u (by simpa using here)
        simp only [lexeme, String.length_toList] at later
        rw [later, List.take_succ_cons, List.map_cons, List.sum_cons]
        omega
    · intro placed
      constructor
      · have first := placed 0 t rfl
        obtain ⟨kind, text, start⟩ := t
        simpa [lexeme, eq_comm] using first
      · intro i u here
        have later := placed (i + 1) u (by simpa using here)
        rw [later, List.take_succ_cons, List.map_cons, List.sum_cons]
        simp only [lexeme, String.length_toList]
        omega

theorem cut_of_scan {text : String} {ts : List Token} (scanned : scan text = .ok ts) :
    Cut text ts := by
  refine ⟨?_, spells_of_scanFrom scanned, ?_, ?_⟩
  · apply String.toList_injective
    rw [String.toList_join, List.flatMap_map]
    exact flatMap_of_scanFrom scanned
  · exact place_eq_iff.mp (place_of_scanFrom scanned)
  · have apart := (List.isChain_map lexeme).mp (apart_of_scanFrom scanned)
    exact apart.imp fun _ _ => apart_lexeme_iff.mp

theorem Cut.scan {text : String} {ts : List Token} (cut : Cut text ts) : scan text = .ok ts := by
  have spelled : ∀ l ∈ ts.map lexeme, l.Spelled := List.forall_mem_map.mpr cut.spelled
  have apart : (ts.map lexeme).IsChain Lexeme.Apart :=
    (List.isChain_map lexeme).mpr (cut.apart.imp fun _ _ => apart_lexeme_iff.mpr)
  have placed : Lexeme.place 1 (ts.map lexeme) = ts := place_eq_iff.mpr cut.placed
  rw [Token.scan, ← cut.whole, toList_join_text, Lexeme.scanFrom_written 1 spelled apart, placed]

end Token

namespace Lexeme

/-- The lexemes with each run of labels made one label, and each run of white space one piece. -/
def fuse : List Lexeme → List Lexeme
  | [] => []
  | l :: ls =>
    match fuse ls with
    | [] => [l]
    | m :: ms =>
      if l.kind = m.kind ∧ (l.kind = .label ∨ l.kind = .blank) then
        ⟨l.kind, l.text ++ m.text⟩ :: ms
      else l :: m :: ms

theorem written_fuse (ls : List Lexeme) : written (fuse ls) = written ls := by
  induction ls with
  | nil => rfl
  | cons l ls ih =>
    rw [fuse, written_cons, ← ih]
    split
    · rename_i none_left
      rw [none_left, written_cons]
    · rename_i m ms shape
      rw [shape]
      split
      · simp
      · simp

theorem spelled_append {l m : Lexeme} (first : l.Spelled) (second : m.Spelled)
    (same : l.kind = m.kind) (run : l.kind = .label ∨ l.kind = .blank) :
    Spelled ⟨l.kind, l.text ++ m.text⟩ := by
  rw [Spelled] at first second ⊢
  rw [← same] at second
  rw [String.toList_append]
  rcases run with kind | kind
  all_goals
    rw [kind] at first second ⊢
    exact ⟨List.append_ne_nil_of_left_ne_nil first.1 _,
      List.forall_mem_append.mpr ⟨first.2, second.2⟩⟩

theorem spelled_fuse {ls : List Lexeme} (spelled : ∀ l ∈ ls, l.Spelled) :
    ∀ l ∈ fuse ls, l.Spelled := by
  induction ls with
  | nil => exact spelled
  | cons l ls ih =>
    obtain ⟨first, others⟩ := List.forall_mem_cons.mp spelled
    have fused := ih others
    rw [fuse]
    split
    · exact List.forall_mem_singleton.mpr first
    · rename_i m ms shape
      rw [shape] at fused
      obtain ⟨second, later⟩ := List.forall_mem_cons.mp fused
      split
      · rename_i together
        exact List.forall_mem_cons.mpr ⟨spelled_append first second together.1 together.2, later⟩
      · exact List.forall_mem_cons.mpr ⟨first, fused⟩

theorem apart_fuse (ls : List Lexeme) : (fuse ls).IsChain Apart := by
  induction ls with
  | nil => exact .nil
  | cons l ls ih =>
    rw [fuse]
    split
    · exact .singleton l
    · rename_i m ms shape
      rw [shape] at ih
      split
      · rename_i together
        rw [List.isChain_cons] at ih ⊢
        refine ⟨fun n next same => ?_, ih.2⟩
        have separate := ih.1 n next (together.1.symm.trans same)
        rwa [← together.1] at separate
      · rename_i separate
        refine List.isChain_cons_cons.mpr ⟨fun same => ?_, ih⟩
        exact not_or.mp fun run => separate ⟨same, run⟩

/-- A text of well-spelled lexemes falls into these, those together that run into each other. -/
theorem scan_of_spelled {ls : List Lexeme} (spelled : ∀ l ∈ ls, l.Spelled) :
    scan (String.join (ls.map Lexeme.text)) = .ok (place 1 (fuse ls)) := by
  have chars : (String.join (ls.map Lexeme.text)).toList = written (fuse ls) := by
    rw [written_fuse, String.toList_join, List.flatMap_map]
    rfl
  rw [scan, chars]
  exact scanFrom_written 1 (spelled_fuse spelled) (apart_fuse ls)

def LabelsApart (ls : List Lexeme) : Prop :=
  ls.IsChain fun l m => ¬ (l.kind = .label ∧ m.kind = .label)

theorem kind_of_fuse {l m : Lexeme} {ls ms : List Lexeme} (fused : fuse (l :: ls) = m :: ms) :
    m.kind = l.kind := by
  rw [fuse] at fused
  split at fused
  · cases fused
    rfl
  · split at fused <;> cases fused <;> rfl

theorem significant_fuse {ls : List Lexeme} (apart : LabelsApart ls) :
    significant (fuse ls) = significant ls := by
  induction ls with
  | nil => rfl
  | cons l ls ih =>
    have others := ih apart.tail
    have step : significant (l :: fuse ls) = significant (l :: ls) := by
      rw [← List.singleton_append, significant_append, others, ← significant_append]
      rfl
    rw [fuse]
    split
    · rename_i none_left
      rwa [none_left] at step
    · rename_i m ms shape
      rw [shape] at others step
      split
      · rename_i together
        obtain ⟨same, label | blank⟩ := together
        · cases ls with
          | nil => cases shape
          | cons k ks =>
            have next : k.kind = .label := by rw [← kind_of_fuse shape, ← same, label]
            exact absurd ⟨label, next⟩ (List.isChain_cons_cons.mp apart).1
        · rw [significant_cons_of_blank (same.symm.trans blank)] at others
          have fused : (Lexeme.mk l.kind (l.text ++ m.text)).kind = .blank := blank
          rw [significant_cons_of_blank fused, others, significant_cons_of_blank blank]
      · exact step

end Lexeme

namespace Token

/-- Scanning gives exactly the tokens into which the text can be cut, and it gives some as soon as
the text is made up of lexemes in any way. -/
theorem scan_ok_iff_cut :
    (∀ (text : String) (ts : List Token), scan text = .ok ts ↔ Cut text ts) ∧
    ∀ text : String, (∃ ts, scan text = .ok ts) ↔
      ∃ ls : List Lexeme, (∀ l ∈ ls, l.Spelled) ∧ String.join (ls.map Lexeme.text) = text := by
  constructor
  · exact fun text ts => ⟨cut_of_scan, Cut.scan⟩
  · intro text
    constructor
    · rintro ⟨ts, scanned⟩
      have cut := cut_of_scan scanned
      refine ⟨ts.map lexeme, List.forall_mem_map.mpr cut.spelled, ?_⟩
      rw [List.map_map]
      exact cut.whole
    · rintro ⟨ls, spelled, whole⟩
      exact whole ▸ ⟨_, Lexeme.scan_of_spelled spelled⟩

/-- Of three dashes before `>`, two are a route and one belongs to the arrow. The text is also made
up of shorter lexemes, of which the first two are labels and the two before the last are white
space. -/
theorem scan_ok_iff_cut_dashes :
    Cut "a'--->  b" [⟨.label, "a'", 1⟩, ⟨.route, "--", 3⟩, ⟨.arrow, "->", 5⟩, ⟨.blank, "  ", 7⟩,
      ⟨.label, "b", 9⟩] ∧
    (∀ l ∈ [Lexeme.mk .label "a", ⟨.label, "'"⟩, ⟨.route, "--"⟩, ⟨.arrow, "->"⟩, ⟨.blank, " "⟩,
      ⟨.blank, " "⟩, ⟨.label, "b"⟩], l.Spelled) ∧
    ∃ ts, scan "a'--->  b" = .ok ts := by
  have spelled : ∀ l ∈ [Lexeme.mk .label "a", ⟨.label, "'"⟩, ⟨.route, "--"⟩, ⟨.arrow, "->"⟩,
      ⟨.blank, " "⟩, ⟨.blank, " "⟩, ⟨.label, "b"⟩], l.Spelled := by
    simp [Lexeme.Spelled, TokenKind.Spells, Token.isLabelChar, Text.isBlank]
  refine ⟨(scan_ok_iff_cut.1 _ _).mp (by decide +kernel), spelled, ?_⟩
  exact (scan_ok_iff_cut.2 _).mpr ⟨_, spelled, by decide +kernel⟩

end Token
end ArrowGraph
