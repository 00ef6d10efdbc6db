namespace Vignette

/-! Bindings of values to names, in the order in which the names were first bound. Binding a name
again replaces its value and keeps its place. -/

/-- Names with their values, in order. -/
structure Bindings (V : Type) where
  entries : List (String × V)
deriving Repr, DecidableEq

namespace Bindings

variable {V W : Type}

def empty : Bindings V := ⟨[]⟩

def get? (b : Bindings V) (name : String) : Option V :=
  (b.entries.find? fun entry => entry.1 == name).map Prod.snd

def binds (b : Bindings V) (name : String) : Bool := (b.get? name).isSome

def getD (b : Bindings V) (name : String) (other : V) : V := (b.get? name).getD other

def size (b : Bindings V) : Nat := b.entries.length

/-- Binds a name in a list of entries: in place, or at the end. -/
def putEntry (name : String) (value : V) : List (String × V) → List (String × V)
  | [] => [(name, value)]
  | entry :: rest =>
    if entry.1 == name then (name, value) :: rest else entry :: putEntry name value rest

def put (b : Bindings V) (name : String) (value : V) : Bindings V :=
  ⟨putEntry name value b.entries⟩

def putAll (b : Bindings V) (entries : List (String × V)) : Bindings V :=
  entries.foldl (fun bound entry => bound.put entry.1 entry.2) b

def ofList (entries : List (String × V)) : Bindings V := empty.putAll entries

/-- The bindings of both, those of the second winning. -/
def overlay (b later : Bindings V) : Bindings V := b.putAll later.entries

@[simp] theorem get?_empty (name : String) : (empty : Bindings V).get? name = none := rfl

theorem get?_put (b : Bindings V) (name other : String) (value : V) :
    (b.put name value).get? other = if other = name then some value else b.get? other := by
  obtain ⟨entries⟩ := b
  simp only [put, get?]
  induction entries with
  | nil =>
      by_cases same : other = name
      · simp [putEntry, same]
      · have apart : ¬ name = other := fun h => same h.symm
        simp [putEntry, same, apart]
  | cons entry rest ih =>
      simp only [putEntry]
      by_cases here : entry.1 = name
      · by_cases same : other = name
        · simp [here, same]
        · have apart : ¬ name = other := fun h => same h.symm
          simp [here, same, apart]
      · by_cases found : entry.1 = other
        · have apart : ¬ other = name := fun h => here (found.trans h)
          simp [found, apart]
        · simp [here, found, ih]

end Bindings

end Vignette
