import ArrowGraph.Text.Layout

namespace ArrowGraph.Text

def Unbroken (cs : List Char) : Prop :=
  ∀ c ∈ cs, isLineBreak c = false

instance (cs : List Char) : Decidable (Unbroken cs) :=
  List.decidableBAll (fun c => isLineBreak c = false) cs

variable {c : Char} {cs : List Char} {lines : List String}

theorem unifyBreaks_of_not_mem (plain : '\r' ∉ cs) : unifyBreaks cs = cs := by
  fun_induction unifyBreaks cs with
  | case1 => rfl
  | case2 => simp at plain
  | case3 => simp at plain
  | case4 c cs _ _ ih => rw [ih fun later => plain (List.mem_cons_of_mem _ later)]

theorem splitLines_cons (unbroken : isLineBreak c = false) (cs : List Char) :
    splitLines (c :: cs) =
      match splitLines cs with
      | [] => [[c]]
      | line :: lines => (c :: line) :: lines := by
  rw [splitLines]
  · rw [unbroken]
    cases splitLines cs <;> rfl
  · rintro rest rfl
    simp [isLineBreak] at unbroken

theorem splitLines_append (unbroken : Unbroken cs) (rest : List Char) :
    splitLines (cs ++ '\n' :: rest) = cs :: splitLines rest := by
  induction cs with
  | nil =>
    rw [List.nil_append, splitLines]
    · rfl
    · nofun
  | cons c cs ih =>
    obtain ⟨here, later⟩ := List.forall_mem_cons.mp unbroken
    rw [List.cons_append, splitLines_cons here, ih later]

theorem splitLines_of_unbroken (unbroken : Unbroken cs) :
    splitLines cs = if cs = [] then [] else [cs] := by
  induction cs with
  | nil => rfl
  | cons c cs ih =>
    obtain ⟨here, later⟩ := List.forall_mem_cons.mp unbroken
    rw [splitLines_cons here, ih later, if_neg (List.cons_ne_nil c cs)]
    cases cs <;> rfl

theorem splitLines_intercalate {texts : List (List Char)} (unbroken : ∀ cs ∈ texts, Unbroken cs) :
    texts = splitLines (['\n'].intercalate texts) ∨
      texts = splitLines (['\n'].intercalate texts) ++ [[]] := by
  induction texts with
  | nil => exact .inl rfl
  | cons cs texts ih =>
    obtain ⟨here, others⟩ := List.forall_mem_cons.mp unbroken
    cases texts with
    | nil =>
      rw [List.intercalate_singleton, splitLines_of_unbroken here]
      by_cases empty : cs = []
      · exact .inr (by simp [empty])
      · exact .inl (by simp [empty])
    | cons next texts =>
      rw [List.intercalate_cons_cons, List.append_assoc, List.singleton_append,
        splitLines_append here, List.cons_append]
      exact (ih others).imp (congrArg (cs :: ·)) (congrArg (cs :: ·))

theorem not_mem_intercalate {c : Char} {separator : String} {texts : List String}
    (between : c ∉ separator.toList) (inside : ∀ t ∈ texts, c ∉ t.toList) :
    c ∉ (separator.intercalate texts).toList := by
  induction texts with
  | nil => simp
  | cons t texts ih =>
    obtain ⟨first, others⟩ := List.forall_mem_cons.mp inside
    cases texts with
    | nil => simpa using first
    | cons u texts =>
      simp only [String.intercalate_cons_cons, String.toList_append, List.mem_append, not_or]
      exact ⟨⟨first, between⟩, ih others⟩

theorem map_ofList_toList (texts : List String) :
    (texts.map String.toList).map String.ofList = texts := by
  rw [List.map_map]
  exact List.map_id'' (fun _ => String.ofList_toList) texts

theorem lines_intercalate (unbroken : ∀ line ∈ lines, Unbroken line.toList) :
    lines = Text.lines ("\n".intercalate lines) ∨
      lines = Text.lines ("\n".intercalate lines) ++ [""] := by
  have back := (map_ofList_toList lines).symm
  have texts : ∀ cs ∈ lines.map String.toList, Unbroken cs := List.forall_mem_map.mpr unbroken
  rw [Text.lines, String.toList_intercalate]
  refine (splitLines_intercalate texts).imp (fun same => ?_) (fun same => ?_)
  · exact back.trans (congrArg (List.map String.ofList) same)
  · exact back.trans ((congrArg (List.map String.ofList) same).trans List.map_append)

/-- A joined text has the lines it is made from. -/
theorem lines_joined (unbroken : ∀ line ∈ lines, Unbroken line.toList) :
    let content := "\n".intercalate lines
    lines = Text.lines (String.ofList (unifyBreaks content.toList)) ∨
      lines = Text.lines (String.ofList (unifyBreaks content.toList)) ++ [""] := by
  intro content
  have plain : '\r' ∉ content.toList := by
    refine not_mem_intercalate (by decide) fun line member inside => ?_
    exact absurd (unbroken line member _ inside) (by decide)
  rw [unifyBreaks_of_not_mem plain, String.ofList_toList]
  exact lines_intercalate unbroken

theorem feedPieces_intercalate (plain : ∀ line ∈ lines, '\n' ∉ line.toList)
    (several : lines ≠ []) : feedPieces ("\n".intercalate lines) = lines := by
  have texts : ∀ cs ∈ lines.map String.toList, '\n' ∉ cs := List.forall_mem_map.mpr plain
  have nonempty : lines.map String.toList ≠ [] := by simpa using several
  have feed : "\n".toList = ['\n'] := rfl
  rw [feedPieces, String.toList_intercalate, feed, List.splitOn_intercalate '\n' texts nonempty,
    map_ofList_toList]

end ArrowGraph.Text
