import Vignette.Proofs.Bindings
import Vignette.Proofs.Style.Writing

namespace Vignette.Style

/-! The table of rules that sheets make. For each selector it holds the declarations of all rules
that list it, a later one winning over an earlier one of the same name. -/

namespace Rules

def addRule (table : Rules) (rule : Rule) : Rules :=
  rule.selectors.foldl (add (.ofList rule.declarations)) table

variable {table : Rules} {selector name : String}

theorem addSheet_written {rules : List Rule} {sheet : String}
    (written : RulesWritten rules sheet.toList) (writable : ∀ rule ∈ rules, rule.Writable)
    (table : Rules) : table.addSheet sheet = rules.foldl addRule table := by
  rw [addSheet, ← blocks_written written writable, List.foldl_map]
  rfl

section Selected

variable {declarations : Declarations}

theorem get?_add (table : Rules) (declarations : Declarations) (selector other : String) :
    (add declarations table selector).get? other =
      if other = selector then some ((table.lookup selector).overlay declarations)
      else table.get? other := by
  rw [add, Bindings.get?_put]
  rfl

theorem binds_addAll (declarations : Declarations) (selectors : List String) (table : Rules)
    (selector : String) :
    (selectors.foldl (add declarations) table).binds selector = true ↔
      selector ∈ selectors ∨ table.binds selector = true := by
  induction selectors generalizing table with
  | nil => simp
  | cons first rest ih =>
      rw [List.foldl_cons, ih, Bindings.binds, get?_add, List.mem_cons, Bindings.binds]
      by_cases same : selector = first <;> simp [same]

theorem lookup_addAll (distinct : declarations.Distinct) (selectors : List String) (table : Rules)
    (selector name : String) :
    ((selectors.foldl (add declarations) table).lookup selector).get? name =
      if selector ∈ selectors then
        (declarations.get? name).or ((table.lookup selector).get? name)
      else (table.lookup selector).get? name := by
  induction selectors generalizing table with
  | nil => simp
  | cons first rest ih =>
      have own : ((add declarations table first).lookup selector).get? name =
          if selector = first then (declarations.get? name).or ((table.lookup selector).get? name)
          else (table.lookup selector).get? name := by
        rw [lookup, Bindings.getD, get?_add]
        split
        · rename_i same
          rw [same, Option.getD_some, Bindings.get?_overlay _ distinct]
        · rfl
      rw [List.foldl_cons, ih, own]
      simp only [List.mem_cons]
      by_cases same : selector = first
      · -- A selector listed twice gets the same declarations again.
        simp only [same, true_or, if_true]
        split
        · rw [← Option.or_assoc, Option.or_self]
        · rfl
      · simp only [same, false_or, if_false]

end Selected

theorem binds_addRules (rules : List Rule) (table : Rules) (selector : String) :
    (rules.foldl addRule table).binds selector = true ↔
      (∃ rule ∈ rules, selector ∈ rule.selectors) ∨ table.binds selector = true := by
  induction rules generalizing table with
  | nil => simp
  | cons rule rest ih =>
      rw [List.foldl_cons, ih, addRule, binds_addAll]
      simp [or_left_comm, or_assoc]

theorem lookup_addRules (rules : List Rule) (table : Rules) (selector name : String) :
    ((rules.foldl addRule table).lookup selector).get? name =
      (Bindings.lastValue? name
        ((rules.filter (selector ∈ ·.selectors)).flatMap Rule.declarations)).or
          ((table.lookup selector).get? name) := by
  induction rules generalizing table with
  | nil => rfl
  | cons rule rest ih =>
      have distinct := Bindings.distinct_ofList rule.declarations
      rw [List.foldl_cons, ih, addRule, lookup_addAll distinct, Bindings.get?_ofList]
      by_cases listed : selector ∈ rule.selectors
      · rw [if_pos listed, List.filter_cons_of_pos (by simpa using listed), List.flatMap_cons,
          Bindings.lastValue?_append, Option.or_assoc]
      · rw [if_neg listed, List.filter_cons_of_neg (by simpa using listed)]

/-- Sheets that were written from rules give a table of just the selectors that occur in them. For
each it holds, under each name, what the last declaration of that name says among those of the
rules that list the selector. -/
theorem ofSheets_written (sheets : List (List Rule × String))
    (written : ∀ sheet ∈ sheets, RulesWritten sheet.1 sheet.2.toList)
    (writable : ∀ sheet ∈ sheets, ∀ rule ∈ sheet.1, rule.Writable) :
    (∀ selector, (ofSheets (sheets.map Prod.snd)).binds selector = true ↔
      ∃ rule ∈ sheets.flatMap Prod.fst, selector ∈ rule.selectors) ∧
    ∀ selector name, ((ofSheets (sheets.map Prod.snd)).lookup selector).get? name =
      Bindings.lastValue? name (((sheets.flatMap Prod.fst).filter
        (selector ∈ ·.selectors)).flatMap Rule.declarations) := by
  have table : ofSheets (sheets.map Prod.snd) =
      (sheets.flatMap Prod.fst).foldl addRule .empty := by
    rw [ofSheets]
    generalize Bindings.empty = start
    induction sheets generalizing start with
    | nil => rfl
    | cons sheet rest ih =>
        rw [List.map_cons, List.foldl_cons, List.flatMap_cons, List.foldl_append,
          addSheet_written (written sheet List.mem_cons_self) (writable sheet List.mem_cons_self),
          ih (fun other member => written other (List.mem_cons_of_mem _ member))
            fun other member => writable other (List.mem_cons_of_mem _ member)]
  rw [table]
  constructor
  · intro selector
    rw [binds_addRules]
    simp [Bindings.binds]
  · intro selector name
    rw [lookup_addRules]
    exact Option.or_none

/-- Two sheets with rules for one class, one of them without declarations. -/
def twoSheets : List (List Rule × String) :=
  [([⟨[".a", "b c"], [("fill", "red"), ("src", "x:y")]⟩, ⟨[".a"], []⟩],
      " .a ,b c\t\x7bfill:red;\n src: x:y\x7d.a\x7b \x7d"),
    ([⟨[".a"], [("fill", "blue")]⟩], ".a\x7bfill: blue\x7d\n")]

theorem ofSheets_written_twoSheets :
    (∀ sheet ∈ twoSheets, RulesWritten sheet.1 sheet.2.toList) ∧
    (∀ sheet ∈ twoSheets, ∀ rule ∈ sheet.1, rule.Writable) ∧
    ((ofSheets (twoSheets.map Prod.snd)).lookup ".a").get? "fill" = some "blue" := by
  have blank (text : String) (all : text.toList.all Text.isBlank = true) : AllBlank text.toList :=
    List.all_eq_true.mp all
  have padded (before part after : String) (blankBefore : before.toList.all Text.isBlank = true)
      (blankAfter : after.toList.all Text.isBlank = true) :
      Padded part.toList (before.toList ++ part.toList ++ after.toList) :=
    ⟨blank before blankBefore, blank after blankAfter⟩
  have first : RulesWritten [⟨[".a", "b c"], [("fill", "red"), ("src", "x:y")]⟩, ⟨[".a"], []⟩] _ :=
    .cons (.cons (padded " " ".a" " " rfl rfl) (.last (padded "" "b c" "\t" rfl rfl)))
      (.full (.cons ⟨padded "" "fill" "" rfl rfl, padded "" "red" "" rfl rfl⟩
        (.last ⟨padded "\n " "src" "" rfl rfl, padded " " "x:y" "" rfl rfl⟩)))
      (.cons (.last (padded "" ".a" "" rfl rfl)) (.empty (blank " " rfl)) (.nil (blank "" rfl)))
  have second : RulesWritten [⟨[".a"], [("fill", "blue")]⟩] _ :=
    .cons (.last (padded "" ".a" "" rfl rfl))
      (.full (.last ⟨padded "" "fill" "" rfl rfl, padded " " "blue" "" rfl rfl⟩))
      (.nil (blank "\n" rfl))
  have written : ∀ sheet ∈ twoSheets, RulesWritten sheet.1 sheet.2.toList :=
    List.forall_mem_cons.mpr ⟨first, List.forall_mem_cons.mpr ⟨second, by simp⟩⟩
  have writable : ∀ sheet ∈ twoSheets, ∀ rule ∈ sheet.1, rule.Writable := by decide
  refine ⟨written, writable, ?_⟩
  rw [(ofSheets_written twoSheets written writable).2]
  decide

end Rules

end Vignette.Style
