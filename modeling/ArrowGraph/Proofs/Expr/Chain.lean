import ArrowGraph.Expr.OfTokens

namespace ArrowGraph

namespace Token

def labels (ts : List Token) : List String :=
  (ts.filter fun t => t.kind = .label).map text

def operators (ts : List Token) : List Operator :=
  ts.filterMap (·.kind.operator?)

theorem mem_labels {ts : List Token} {word : String} :
    word ∈ labels ts ↔ ∃ t ∈ ts, t.kind = .label ∧ t.text = word := by
  simp [labels, and_assoc]

theorem labels_subset {ts us : List Token} (within : ts ⊆ us) : labels ts ⊆ labels us := by
  intro word member
  obtain ⟨t, inside, same⟩ := mem_labels.mp member
  exact mem_labels.mpr ⟨t, within inside, same⟩

end Token

namespace Expr

mutual

def labels : Expr → List String
  | absent | shapeless => []
  | label name => [name]
  | operation _ left right => labels left ++ labels right
  | statements es => labelsEach es

def labelsEach : List Expr → List String
  | [] => []
  | e :: es => labels e ++ labelsEach es

end

mutual

def operators : Expr → List Operator
  | absent | shapeless | label _ => []
  | operation operator left right => operators left ++ operator :: operators right
  | statements es => operatorsEach es

def operatorsEach : List Expr → List Operator
  | [] => []
  | e :: es => operators e ++ operatorsEach es

end

theorem labelsEach_eq (es : List Expr) : labelsEach es = es.flatMap labels := by
  induction es with
  | nil => rfl
  | cons e es ih => rw [labelsEach, List.flatMap_cons, ih]

/-- A label, and operators with a label after each. -/
def chain (first : String) : List (Operator × String) → Expr
  | [] => .label first
  | (operator, next) :: links => .operation operator (.label first) (chain next links)

@[simp] theorem labels_chain (first : String) (links : List (Operator × String)) :
    (chain first links).labels = first :: links.map Prod.snd := by
  induction links generalizing first with
  | nil => rfl
  | cons link links ih => simp [chain, labels, ih]

@[simp] theorem operators_chain (first : String) (links : List (Operator × String)) :
    (chain first links).operators = links.map Prod.fst := by
  induction links generalizing first with
  | nil => rfl
  | cons link links ih => simp [chain, operators, ih]

theorem chain_eq_of_same {first other : String} {links others : List (Operator × String)}
    (labels : first :: links.map Prod.snd = other :: others.map Prod.snd)
    (operators : links.map Prod.fst = others.map Prod.fst) :
    chain first links = chain other others := by
  obtain ⟨rfl, seconds⟩ := List.cons.inj labels
  have same : links = others := by
    rw [← List.zip_unzip links, ← List.zip_unzip others, List.unzip_eq_map, List.unzip_eq_map]
    dsimp only
    rw [operators, seconds]
  rw [same]

end Expr
end ArrowGraph
