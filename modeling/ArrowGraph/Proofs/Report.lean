import ArrowGraph.Proofs.FirstSeen
import ArrowGraph.Proofs.Text.Joined
import ArrowGraph.Report
import Mathlib.Data.List.DropRight

namespace ArrowGraph

namespace Text

/-- What is left of a text without the white space at its end. -/
structure Stripped (text left : String) : Prop where
  cut : ∃ blanks : List Char,
    text.toList = left.toList ++ blanks ∧ ∀ c ∈ blanks, isBlank c = true
  last : ∀ c, left.toList.getLast? = some c → isBlank c = false

theorem stripped_stripEnd (text : String) : Stripped text (stripEnd text) := by
  rw [stripEnd]
  refine ⟨⟨text.toList.rtakeWhile isBlank, ?_, fun c => List.mem_rtakeWhile_imp⟩, ?_⟩
  · rw [String.toList_ofList]
    exact List.rdropWhile_append_rtakeWhile.symm
  · rw [String.toList_ofList]
    exact fun c => not_isBlank_of_getLast?_trimEnd

variable {text left front back : String}

theorem Stripped.unbroken (stripped : Stripped text left) (unbroken : Unbroken text.toList) :
    Unbroken left.toList := by
  obtain ⟨blanks, whole, _⟩ := stripped.cut
  exact fun c member => unbroken c (whole ▸ List.mem_append_left blanks member)

theorem Stripped.begins (stripped : Stripped (front ++ back) left)
    (firm : ∀ c, front.toList.getLast? = some c → isBlank c = false) :
    ∃ others, left = front ++ others := by
  obtain ⟨blanks, whole, blank⟩ := stripped.cut
  rw [String.toList_append] at whole
  rcases List.append_eq_append_iff.mp whole with ⟨others, kept, _⟩ | ⟨lost, kept, gone⟩
  · exact ⟨String.ofList others, by rw [← String.toList_inj]; simpa using kept⟩
  · -- What is lost of the front is its end, and that is not white.
    cases lost using List.reverseRecOn with
    | nil => exact ⟨"", by rw [← String.toList_inj]; simpa using kept.symm⟩
    | append_singleton lost c =>
      have white : isBlank c = true := blank c (by simp [gone])
      have black : isBlank c = false := firm c (by simp [kept])
      rw [white] at black
      cases black

end Text

namespace Report

theorem merge_singleton (r : Report) : merge [r] = r := by
  obtain ⟨ok, message⟩ := r
  by_cases silent : message = ""
  · simp [merge, messages, silent]
  · simp [merge, messages, silent, List.eraseDups_cons]

theorem merge_append_self (reports : List Report) : merge (reports ++ reports) = merge reports := by
  rw [merge, messages, List.map_append, List.filter_append, eraseDups_append_self, List.all_append,
    Bool.and_self]
  rfl

theorem mem_messages {reports : List Report} {text : String} :
    text ∈ messages reports ↔ text ≠ "" ∧ ∃ r ∈ reports, r.message = text := by
  simp [messages, and_comm]

/-- The messages can be read off the merged report, as long as each is a single line. -/
theorem feedPieces_merge {reports : List Report} (single : ∀ r ∈ reports, '\n' ∉ r.message.toList) :
    (if (merge reports).message = "" then [] else Text.feedPieces (merge reports).message) =
      messages reports := by
  have plain : ∀ text ∈ messages reports, '\n' ∉ text.toList := by
    intro text member
    obtain ⟨_, r, given, rfl⟩ := mem_messages.mp member
    exact single r given
  cases told : messages reports with
  | nil => simp [merge, told]
  | cons text texts =>
    have back := Text.feedPieces_intercalate plain (by simp [told])
    have message : (merge reports).message = "\n".intercalate (messages reports) := rfl
    rw [message, back, if_neg, told]
    intro empty
    rw [empty] at back
    have silent : "" ∈ messages reports := back ▸ List.mem_singleton_self ""
    exact (mem_messages.mp silent).1 rfl

/-- The lines that are told: those of the message, or an empty one if there are none. -/
def told (r : Report) : List String :=
  if (Text.lines r.message).isEmpty then [""] else Text.lines r.message

def shown (r : Report) (line : String) : String :=
  Text.stripEnd ("  " ++ r.mark ++ " " ++ line)

variable {r : Report} {line : String}

theorem display_eq (r : Report) : r.display = "\n".intercalate (r.told.map r.shown) := rfl

theorem length_told (r : Report) : r.told.length = max 1 (Text.lines r.message).length := by
  unfold told
  cases Text.lines r.message <;> simp

theorem getElem?_told {i : Nat} (here : r.told[i]? = some line) :
    line = (Text.lines r.message).getD i "" := by
  unfold told at here
  cases lines : Text.lines r.message with
  | nil => cases i <;> simp_all
  | cons first others => simp_all [List.getD_eq_getElem?_getD]

theorem told_unbroken (member : line ∈ r.told) : Text.Unbroken line.toList := by
  unfold told at member
  split at member
  · obtain rfl := List.mem_singleton.mp member
    nofun
  · obtain ⟨cs, within, rfl⟩ := List.mem_map.mp member
    rw [String.toList_ofList]
    exact Text.splitLines_unbroken _ cs within

theorem stripped_shown (r : Report) (line : String) :
    Text.Stripped ("  " ++ r.mark ++ " " ++ line) (r.shown line) :=
  Text.stripped_stripEnd _

theorem shown_begins (r : Report) (line : String) :
    ∃ others, r.shown line = "  " ++ r.mark ++ others := by
  have stripped := r.stripped_shown line
  rw [String.append_assoc] at stripped
  have last : ("  " ++ r.mark).toList.getLast? = some (if r.ok then '✔' else '✘') := by
    rw [mark]
    cases r.ok <;> rfl
  refine stripped.begins fun c final => ?_
  obtain rfl := Option.some.inj (last.symm.trans final)
  cases r.ok <;> rfl

theorem shown_ne_empty (r : Report) (line : String) : r.shown line ≠ "" := by
  obtain ⟨others, begins⟩ := r.shown_begins line
  rw [begins]
  simp

theorem shown_unbroken (member : line ∈ r.told) : Text.Unbroken (r.shown line).toList := by
  have front : Text.Unbroken ("  " ++ r.mark ++ " ").toList := by
    rw [mark]
    cases r.ok <;> decide
  refine (r.stripped_shown line).unbroken ?_
  rw [String.toList_append]
  exact List.forall_mem_append.mpr ⟨front, told_unbroken member⟩

theorem lines_display (r : Report) : Text.lines r.display = r.told.map r.shown := by
  have unbroken : ∀ text ∈ r.told.map r.shown, Text.Unbroken text.toList :=
    List.forall_mem_map.mpr fun line member => shown_unbroken member
  rw [display_eq]
  rcases Text.lines_intercalate unbroken with same | longer
  · exact same.symm
  · have member : "" ∈ r.told.map r.shown := longer ▸ List.mem_append_right _ (by simp)
    obtain ⟨line, _, empty⟩ := List.mem_map.mp member
    exact absurd empty (r.shown_ne_empty line)

theorem feedPieces_display (r : Report) : Text.feedPieces r.display = r.told.map r.shown := by
  have plain : ∀ text ∈ r.told.map r.shown, '\n' ∉ text.toList := by
    refine List.forall_mem_map.mpr fun line member feed => ?_
    exact absurd (shown_unbroken member _ feed) (by decide)
  have several : 0 < (r.told.map r.shown).length := by
    rw [List.length_map, length_told]
    omega
  rw [display_eq]
  exact Text.feedPieces_intercalate plain (List.ne_nil_of_length_pos several)

/-- A text that shows a report: line by line the message after the mark, without white space at the
end. -/
structure Shows (r : Report) (text : String) : Prop where
  pieces : Text.lines text = Text.feedPieces text
  length : (Text.lines text).length = max 1 (Text.lines r.message).length
  marked : ∀ line ∈ Text.lines text, line ≠ "" ∧ ∃ others, line = "  " ++ r.mark ++ others
  stripped : ∀ i line, (Text.lines text)[i]? = some line →
    Text.Stripped ("  " ++ r.mark ++ " " ++ (Text.lines r.message).getD i "") line

theorem shows_display (r : Report) : r.Shows r.display := by
  refine ⟨?_, ?_, ?_, ?_⟩
  · rw [lines_display, feedPieces_display]
  · rw [lines_display, List.length_map, length_told]
  · rw [lines_display]
    exact List.forall_mem_map.mpr fun line _ => ⟨r.shown_ne_empty line, r.shown_begins line⟩
  · intro i line here
    rw [lines_display, List.getElem?_map] at here
    obtain ⟨source, there, rfl⟩ := Option.map_eq_some_iff.mp here
    rw [← getElem?_told there]
    exact r.stripped_shown source

example : (failure "a \r\n\u2028 b").display = "  ✘ a\n  ✘\n  ✘  b" := by
  decide +kernel

/-- Merging single lines gives a text of these lines, each once, and no line for those that say
nothing. It succeeds if all reports do, and merging again changes nothing. Showing a report, of any
number of lines, gives one marked line for each. -/
theorem merged_and_shown :
    (∀ reports : List Report, (∀ r ∈ reports, '\n' ∉ r.message.toList) →
      FirstSeen
        (if (merge reports).message = "" then [] else Text.feedPieces (merge reports).message)
        ((reports.map message).filter (· ≠ ""))) ∧
    (∀ reports : List Report, ((merge reports).ok = true ↔ ∀ r ∈ reports, r.ok = true) ∧
      merge (reports ++ reports) = merge reports ∧ merge [merge reports] = merge reports) ∧
    ∀ r : Report, r.Shows r.display := by
  refine ⟨fun reports single => ?_, fun reports => ?_, shows_display⟩
  · rw [feedPieces_merge single]
    exact firstSeen_eraseDups _
  · exact ⟨merge_ok, merge_append_self reports, merge_singleton (merge reports)⟩

/-- One report fails, one says nothing, and a message comes twice. -/
theorem merged_and_shown_repeated :
    let reports := [failure "b", success "", success "a", success "b"]
    (∀ r ∈ reports, '\n' ∉ r.message.toList) ∧ merge reports = failure "b\na" ∧
      FirstSeen
        (if (merge reports).message = "" then [] else Text.feedPieces (merge reports).message)
        ((reports.map message).filter (· ≠ "")) := by
  intro reports
  have single : ∀ r ∈ reports, '\n' ∉ r.message.toList := by decide +kernel
  exact ⟨single, by decide +kernel, merged_and_shown.1 reports single⟩

end Report
end ArrowGraph
