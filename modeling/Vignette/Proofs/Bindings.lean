import Vignette.Bindings

namespace Vignette.Bindings

/-! Bindings made of many entries. Names keep the order of their first entries, and the last entry
of a name decides its value. -/

variable {V : Type}

/-- The value of the last entry of a name. -/
def lastValue? (name : String) (entries : List (String × V)) : Option V :=
  (entries.reverse.find? fun entry => entry.1 == name).map Prod.snd

theorem lastValue?_append (name : String) (front back : List (String × V)) :
    lastValue? name (front ++ back) = (lastValue? name back).or (lastValue? name front) := by
  simp only [lastValue?, List.reverse_append, List.find?_append]
  cases back.reverse.find? fun entry => entry.1 == name <;> rfl

theorem lastValue?_cons (name : String) (entry : String × V) (rest : List (String × V)) :
    lastValue? name (entry :: rest) =
      (lastValue? name rest).or (if entry.1 = name then some entry.2 else none) := by
  rw [← List.singleton_append, lastValue?_append]
  congr 1
  by_cases same : entry.1 = name <;> simp [lastValue?, same]

theorem get?_putAll (b : Bindings V) (entries : List (String × V)) (name : String) :
    (b.putAll entries).get? name = (lastValue? name entries).or (b.get? name) := by
  induction entries generalizing b with
  | nil => rfl
  | cons entry rest ih =>
      rw [putAll, List.foldl_cons, ← putAll, ih, get?_put, lastValue?_cons]
      by_cases same : entry.1 = name
      · simp [same]
      · simp [same, Ne.symm same]

theorem get?_ofList (entries : List (String × V)) (name : String) :
    (ofList entries).get? name = lastValue? name entries := by
  rw [ofList, get?_putAll, get?_empty, Option.or_none]

theorem putEntry_of_absent {name : String} (value : V) {entries : List (String × V)}
    (absent : name ∉ entries.map Prod.fst) :
    putEntry name value entries = entries ++ [(name, value)] := by
  induction entries with
  | nil => rfl
  | cons entry rest ih =>
      rw [List.map_cons, List.mem_cons, not_or] at absent
      rw [putEntry, if_neg (by simpa using Ne.symm absent.1), ih absent.2]
      rfl

theorem putAll_of_distinct (b : Bindings V) {entries : List (String × V)}
    (distinct : (b.entries ++ entries).map Prod.fst |>.Nodup) :
    (b.putAll entries).entries = b.entries ++ entries := by
  induction entries generalizing b with
  | nil => simp [putAll]
  | cons entry rest ih =>
      have absent : entry.1 ∉ b.entries.map Prod.fst := by
        rw [List.map_append, List.map_cons, List.nodup_append] at distinct
        exact fun member => distinct.2.2 _ member _ List.mem_cons_self rfl
      have placed : (b.put entry.1 entry.2).entries = b.entries ++ [entry] :=
        putEntry_of_absent entry.2 absent
      rw [putAll, List.foldl_cons, ← putAll, ih, placed, List.append_assoc, List.singleton_append]
      rwa [placed, List.append_assoc, List.singleton_append]

theorem ofList_of_distinct {entries : List (String × V)}
    (distinct : (entries.map Prod.fst).Nodup) : ofList entries = ⟨entries⟩ :=
  congrArg Bindings.mk (putAll_of_distinct empty distinct)

def Distinct (b : Bindings V) : Prop := (b.entries.map Prod.fst).Nodup

theorem names_putEntry (name : String) (value : V) (entries : List (String × V)) :
    (putEntry name value entries).map Prod.fst =
      if name ∈ entries.map Prod.fst then entries.map Prod.fst
      else entries.map Prod.fst ++ [name] := by
  induction entries with
  | nil => simp [putEntry]
  | cons entry rest ih =>
      rw [putEntry]
      by_cases same : entry.1 = name
      · simp [same]
      · rw [if_neg (by simpa using same), List.map_cons, ih, List.map_cons]
        have names : name ∈ entry.1 :: rest.map Prod.fst ↔ name ∈ rest.map Prod.fst := by
          rw [List.mem_cons, or_iff_right (Ne.symm same)]
        simp only [names]
        split <;> rfl

theorem Distinct.put {b : Bindings V} (distinct : b.Distinct) (name : String) (value : V) :
    (b.put name value).Distinct := by
  rw [Distinct, Bindings.put, names_putEntry]
  split
  · exact distinct
  · rename_i absent
    refine List.nodup_append.mpr ⟨distinct, by simp, fun other member => ?_⟩
    rintro single among rfl
    exact absent (List.mem_singleton.mp among ▸ member)

theorem Distinct.putAll {b : Bindings V} (distinct : b.Distinct) (entries : List (String × V)) :
    (b.putAll entries).Distinct := by
  induction entries generalizing b with
  | nil => exact distinct
  | cons entry rest ih => exact ih (distinct.put entry.1 entry.2)

theorem distinct_ofList (entries : List (String × V)) : (ofList entries).Distinct :=
  Distinct.putAll (b := empty) List.nodup_nil entries

theorem Distinct.lastValue?_entries {b : Bindings V} (distinct : b.Distinct) (name : String) :
    lastValue? name b.entries = b.get? name := by
  rw [← get?_ofList, ofList_of_distinct distinct]

theorem get?_overlay (b : Bindings V) {later : Bindings V} (distinct : later.Distinct)
    (name : String) : (b.overlay later).get? name = (later.get? name).or (b.get? name) := by
  rw [overlay, get?_putAll, distinct.lastValue?_entries]

theorem put_put (b : Bindings V) (name : String) (value other : V) :
    (b.put name value).put name other = b.put name other := by
  obtain ⟨entries⟩ := b
  apply congrArg Bindings.mk
  induction entries with
  | nil => simp [put, putEntry]
  | cons entry rest ih =>
      simp only [put, putEntry] at ih ⊢
      by_cases here : entry.1 = name
      · simp [here, putEntry]
      · simp [here, putEntry, ih]

/-- A name that is bound keeps its place, so that another one may be bound before or after. -/
theorem put_put_of_bound {b : Bindings V} {name other : String} (value another : V)
    (bound : name ∈ b.entries.map Prod.fst) (apart : name ≠ other) :
    (b.put name value).put other another = (b.put other another).put name value := by
  obtain ⟨entries⟩ := b
  apply congrArg Bindings.mk
  simp only [put] at bound ⊢
  induction entries with
  | nil => simp at bound
  | cons entry rest ih =>
      by_cases here : entry.1 = name
      · have there : ¬ entry.1 = other := fun same => apart (here.symm.trans same)
        simp [putEntry, here, apart]
      · have later : name ∈ rest.map Prod.fst :=
          (List.mem_cons.mp bound).resolve_left (Ne.symm here)
        by_cases there : entry.1 = other
        · simp [putEntry, there, Ne.symm apart]
        · simp [putEntry, here, there, ih later]

theorem putAll_put_of_absent {b : Bindings V} {name : String} (value : V)
    {entries : List (String × V)} (bound : name ∈ b.entries.map Prod.fst)
    (absent : name ∉ entries.map Prod.fst) :
    (b.put name value).putAll entries = (b.putAll entries).put name value := by
  induction entries generalizing b with
  | nil => rfl
  | cons entry rest ih =>
      rw [List.map_cons, List.mem_cons, not_or] at absent
      have kept : name ∈ (b.put entry.1 entry.2).entries.map Prod.fst := by
        rw [put, names_putEntry]
        split
        · exact bound
        · exact List.mem_append_left _ bound
      rw [putAll, List.foldl_cons, ← putAll, put_put_of_bound _ _ bound absent.1, ih kept absent.2]
      rfl

theorem overlay_put (b : Bindings V) {later : Bindings V} (distinct : later.Distinct)
    (name : String) (value : V) :
    b.overlay (later.put name value) = (b.overlay later).put name value := by
  obtain ⟨entries⟩ := later
  simp only [overlay, put] at distinct ⊢
  induction entries generalizing b with
  | nil => rfl
  | cons entry rest ih =>
      obtain ⟨absent, distinctRest⟩ := List.nodup_cons.mp distinct
      by_cases here : entry.1 = name
      · cases here
        have bound : entry.1 ∈ (b.put entry.1 entry.2).entries.map Prod.fst := by
          rw [put, names_putEntry]
          split <;> simp [*]
        have same := putAll_put_of_absent value bound absent
        rw [put_put] at same
        rw [putEntry, if_pos (beq_self_eq_true entry.1)]
        exact same
      · rw [putEntry, if_neg (by simpa using here)]
        exact ih (b.put entry.1 entry.2) distinctRest

theorem overlay_putAll (b : Bindings V) {later : Bindings V} (distinct : later.Distinct)
    (entries : List (String × V)) :
    b.overlay (later.putAll entries) = (b.overlay later).putAll entries := by
  induction entries generalizing later with
  | nil => rfl
  | cons entry rest ih =>
      rw [putAll, List.foldl_cons, ← putAll, ih (distinct.put entry.1 entry.2),
        overlay_put b distinct]
      rfl

/-- Overlaying the bindings of some entries binds these one after the other. -/
theorem overlay_ofList (b : Bindings V) (entries : List (String × V)) :
    b.overlay (ofList entries) = b.putAll entries :=
  overlay_putAll b (distinct_ofList []) entries

theorem mem_putEntry {name : String} {value : V} {entries : List (String × V)} {entry : String × V}
    (member : entry ∈ putEntry name value entries) : entry = (name, value) ∨ entry ∈ entries := by
  induction entries with
  | nil => exact .inl (List.mem_singleton.mp member)
  | cons first rest ih =>
      rw [putEntry] at member
      split at member
      · rcases List.mem_cons.mp member with here | later
        · exact .inl here
        · exact .inr (List.mem_cons_of_mem _ later)
      · rcases List.mem_cons.mp member with here | later
        · exact .inr (List.mem_cons.mpr (.inl here))
        · exact (ih later).imp_right (List.mem_cons_of_mem _)

theorem mem_putAll {b : Bindings V} {entries : List (String × V)} {entry : String × V}
    (member : entry ∈ (b.putAll entries).entries) : entry ∈ b.entries ∨ entry ∈ entries := by
  induction entries generalizing b with
  | nil => exact .inl member
  | cons first rest ih =>
      rcases ih member with before | later
      · rcases mem_putEntry before with rfl | old
        · exact .inr List.mem_cons_self
        · exact .inl old
      · exact .inr (List.mem_cons_of_mem _ later)

theorem mem_ofList {entries : List (String × V)} {entry : String × V}
    (member : entry ∈ (ofList entries).entries) : entry ∈ entries :=
  (mem_putAll member).resolve_left List.not_mem_nil

end Vignette.Bindings
