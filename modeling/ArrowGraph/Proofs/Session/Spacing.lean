import ArrowGraph.Proofs.Expr.Spacing
import ArrowGraph.Proofs.Session.Failing
import ArrowGraph.Proofs.Token.Cut

namespace ArrowGraph

open Token (lexeme scan significant)

/-- Two outcomes are the same, or both are refusals to read the tokens. What these say may differ,
for they tell the columns. -/
def SameUpToColumns (first second : Except Failure Report) : Prop :=
  first = second ∨ ∃ error other, first = .error (.parse error) ∧ second = .error (.parse other)

namespace Expr

variable {ts us : List Token}

theorem read_refused_congr (same : (significant ts).map lexeme = (significant us).map lexeme)
    {error : ParseError} (refused : (read ts).result = .error error) :
    ∃ other, (read us).result = .error other := by
  cases again : (read us).result with
  | error other => exact ⟨other, rfl⟩
  | ok e => cases refused.symm.trans (read_congr same.symm again)

end Expr

namespace Command

variable {line other : String} {ts us : List Token}

theorem ofLine_congr (scanned : scan line = .ok ts) (rescanned : scan other = .ok us)
    (same : (significant ts).map lexeme = (significant us).map lexeme) :
    (∃ c, (ofLine line).command = .ok c ∧ (ofLine other).command = .ok c) ∨
    (∃ error, (ofLine line).command = .error (.meaning error) ∧
      (ofLine other).command = .error (.meaning error) ∧ error.kind = .meaning) ∨
    ∃ error error', (ofLine line).command = .error (.parse error) ∧
      (ofLine other).command = .error (.parse error') := by
  cases accepted : (Expr.read ts).result with
  | error error =>
    obtain ⟨error', refused⟩ := Expr.read_refused_congr same accepted
    refine .inr (.inr ⟨error, error', ?_, ?_⟩)
    · simp [ofLine, scanned, accepted]
    · simp [ofLine, rescanned, refused]
  | ok e =>
    have again := Expr.read_congr same accepted
    cases meant : ofExpr e with
    | error error =>
      refine .inr (.inl ⟨error, ?_, ?_, Expr.kind_of_scanned scanned accepted meant⟩)
      · simp [ofLine, scanned, accepted, meant]
      · simp [ofLine, rescanned, again, meant]
    | ok c =>
      refine .inl ⟨c, ?_, ?_⟩
      · simp [ofLine, scanned, accepted, meant]
      · simp [ofLine, rescanned, again, meant]

end Command

namespace Graph

open Lexeme (LabelsApart)

theorem evaluate_congr {line other : String} {ts us : List Token} (scanned : scan line = .ok ts)
    (rescanned : scan other = .ok us)
    (same : (significant ts).map lexeme = (significant us).map lexeme) (g : Graph) :
    (g.evaluate line).graph = (g.evaluate other).graph ∧
      SameUpToColumns (g.evaluate line).outcome (g.evaluate other).outcome := by
  rcases Command.ofLine_congr scanned rescanned same with
    ⟨c, first, second⟩ | ⟨error, first, second, -⟩ | ⟨error, error', first, second⟩
  · simp [evaluate, first, second, SameUpToColumns]
  · simp [evaluate, first, second, SameUpToColumns]
  · simp [evaluate, first, second, SameUpToColumns]

theorem scan_respaced {ls : List Lexeme} (spelled : ∀ l ∈ ls, l.Spelled) (apart : LabelsApart ls) :
    ∃ us, scan (String.join (ls.map Lexeme.text)) = .ok us ∧
      (significant us).map lexeme = Lexeme.significant ls := by
  refine ⟨_, Lexeme.scan_of_spelled spelled, ?_⟩
  rw [Lexeme.map_lexeme_significant, Lexeme.map_lexeme_place, Lexeme.significant_fuse apart]

/-- Lines whose tokens agree but for white space and columns ask for the same command, or for none
for the same reason. If the tokens of a line are written down again with other white space between
them, or with none where no two labels meet, the new line does to every graph what the line does. -/
theorem spacing_unnoticed :
    (∀ (line other : String) (ts us : List Token), scan line = .ok ts → scan other = .ok us →
      (significant ts).map lexeme = (significant us).map lexeme →
        (∃ c, (Command.ofLine line).command = .ok c ∧ (Command.ofLine other).command = .ok c) ∨
        (∃ error, (Command.ofLine line).command = .error (.meaning error) ∧
          (Command.ofLine other).command = .error (.meaning error) ∧ error.kind = .meaning) ∨
        ∃ error error', (Command.ofLine line).command = .error (.parse error) ∧
          (Command.ofLine other).command = .error (.parse error')) ∧
    ∀ (line : String) (ts : List Token) (ls : List Lexeme), scan line = .ok ts →
      (∀ l ∈ ls, l.Spelled) → LabelsApart ls →
      Lexeme.significant ls = (significant ts).map lexeme →
        (∃ us, scan (String.join (ls.map Lexeme.text)) = .ok us) ∧
        ∀ g : Graph, (g.evaluate line).graph =
            (g.evaluate (String.join (ls.map Lexeme.text))).graph ∧
          SameUpToColumns (g.evaluate line).outcome
            (g.evaluate (String.join (ls.map Lexeme.text))).outcome := by
  constructor
  · exact fun line other ts us => Command.ofLine_congr
  · intro line ts ls scanned spelled apart same
    obtain ⟨us, rescanned, lexemes⟩ := scan_respaced spelled apart
    exact ⟨⟨us, rescanned⟩, evaluate_congr scanned rescanned (same.symm.trans lexemes.symm)⟩

/-- Two labels without a sign are refused at different columns. An arrow is drawn as before when a
blank and a tab come in front of it and blanks after its name. -/
theorem spacing_unnoticed_tabs :
    (∃ error error', (Command.ofLine "a b").command = .error (.parse error) ∧
      (Command.ofLine "  a\t b").command = .error (.parse error')) ∧
    scan "f:a->b" = .ok [⟨.label, "f", 1⟩, ⟨.colon, ":", 2⟩, ⟨.label, "a", 3⟩, ⟨.arrow, "->", 4⟩,
      ⟨.label, "b", 6⟩] ∧
    LabelsApart [⟨.blank, " "⟩, ⟨.blank, "\t"⟩, ⟨.label, "f"⟩, ⟨.colon, ":"⟩, ⟨.blank, "  "⟩,
      ⟨.label, "a"⟩, ⟨.arrow, "->"⟩, ⟨.label, "b"⟩] ∧
    (empty.evaluate "f:a->b").graph = (empty.evaluate " \tf:  a->b").graph ∧
    SameUpToColumns (empty.evaluate "f:a->b").outcome (empty.evaluate " \tf:  a->b").outcome := by
  have refused : (Command.ofLine "a b").command =
      .error (.parse (.operatorExpected ⟨.label, "a", 1⟩ ⟨.label, "b", 3⟩ [])) := by
    decide +kernel
  have scanned : scan "f:a->b" = .ok [⟨.label, "f", 1⟩, ⟨.colon, ":", 2⟩, ⟨.label, "a", 3⟩,
      ⟨.arrow, "->", 4⟩, ⟨.label, "b", 6⟩] := by
    decide +kernel
  have spelled : ∀ l ∈ [Lexeme.mk .blank " ", ⟨.blank, "\t"⟩, ⟨.label, "f"⟩, ⟨.colon, ":"⟩,
      ⟨.blank, "  "⟩, ⟨.label, "a"⟩, ⟨.arrow, "->"⟩, ⟨.label, "b"⟩], l.Spelled := by
    simp [Lexeme.Spelled, TokenKind.Spells, Token.isLabelChar, Text.isBlank]
  have apart : LabelsApart [⟨.blank, " "⟩, ⟨.blank, "\t"⟩, ⟨.label, "f"⟩, ⟨.colon, ":"⟩,
      ⟨.blank, "  "⟩, ⟨.label, "a"⟩, ⟨.arrow, "->"⟩, ⟨.label, "b"⟩] := by
    simp [LabelsApart]
  have narrow : scan "a b" = .ok [⟨.label, "a", 1⟩, ⟨.blank, " ", 2⟩, ⟨.label, "b", 3⟩] := by
    decide +kernel
  have wide : scan "  a\t b" = .ok [⟨.blank, "  ", 1⟩, ⟨.label, "a", 3⟩, ⟨.blank, "\t ", 4⟩,
      ⟨.label, "b", 6⟩] := by
    decide +kernel
  refine ⟨?_, scanned, apart, ?_⟩
  · rcases spacing_unnoticed.1 "a b" "  a\t b" _ _ narrow wide rfl with
      ⟨c, read, -⟩ | ⟨error, read, -⟩ | both
    · cases refused.symm.trans read
    · cases refused.symm.trans read
    · exact both
  · exact (spacing_unnoticed.2 _ _ _ scanned spelled apart rfl).2 empty

end Graph
end ArrowGraph
