/-!
Tables under names: lists of pairs in the order of the names' code points, each name once.
-/

namespace TestScenario

/-- A table of values under names. -/
abbrev Dict (α : Type) := List (String × α)

namespace Dict
variable {α β : Type}

/-- The value under a name. -/
def get? (d : Dict α) (name : String) : Option α := d.lookup name

/-- The table with `value` under `name`; ascending order is kept. -/
def insert (name : String) (value : α) : Dict α → Dict α
  | [] => [(name, value)]
  | (n, v) :: rest =>
    if name = n then (name, value) :: rest
    else if name < n then (name, value) :: (n, v) :: rest
    else (n, v) :: insert name value rest

/-- The table of the pairs given, in order; of a repeated name the last value counts. -/
def ofList (pairs : List (String × α)) : Dict α := pairs.foldl (fun d (n, v) => d.insert n v) []

/-- The table overwritten by a later one. -/
def update (d later : Dict α) : Dict α := later.foldl (fun acc (n, v) => acc.insert n v) d

/-- The table without a name. -/
def erase (d : Dict α) (name : String) : Dict α := d.filter (·.1 != name)

/-- Whether a name is there. -/
def contains (d : Dict α) (name : String) : Bool := (d.get? name).isSome

/-- The table with every value replaced. -/
def mapValues (f : α → β) (d : Dict α) : Dict β := d.map fun (n, v) => (n, f v)

/-- The names. -/
def names (d : Dict α) : List String := d.map (·.1)

@[simp] theorem get?_nil (name : String) : get? ([] : Dict α) name = none := rfl

theorem get?_cons (n name : String) (v : α) (d : Dict α) :
    get? ((n, v) :: d) name = if name = n then some v else get? d name := by
  by_cases same : name = n
  · simp [get?, same]
  · have different : (name == n) = false := beq_false_of_ne same
    simp only [get?, List.lookup_cons, different, same, if_false]

/-- The name inserted has its new value, whether the table is in order or not; all others keep theirs. -/
theorem get?_insert (n name : String) (v : α) (d : Dict α) :
    (d.insert n v).get? name = if name = n then some v else d.get? name := by
  induction d with
  | nil => simp [insert, get?_cons]
  | cons pair rest ih =>
    obtain ⟨m, w⟩ := pair
    unfold insert
    by_cases here : n = m
    · subst here
      rw [if_pos rfl, get?_cons, get?_cons]
      split <;> rfl
    · rw [if_neg here]
      split
      · exact get?_cons n name v _
      · rw [get?_cons, ih, get?_cons]
        by_cases same : name = m
        · simp [same, Ne.symm here]
        · simp [same]

/-- The later table counts first, and in it the last of several values under one name. -/
theorem get?_update (d later : Dict α) (name : String) :
    (d.update later).get? name = (get? later.reverse name).or (d.get? name) := by
  induction later generalizing d with
  | nil => rfl
  | cons pair rest ih =>
    obtain ⟨n, v⟩ := pair
    have first : d.update ((n, v) :: rest) = (d.insert n v).update rest := rfl
    have reversed : get? ((n, v) :: rest).reverse name =
        (get? rest.reverse name).or (if name = n then some v else none) := by
      rw [List.reverse_cons, get?, List.lookup_append]
      exact congrArg _ (get?_cons n name v [])
    rw [first, ih, get?_insert, reversed, Option.or_assoc]
    split <;> rfl

theorem contains_insert (n name : String) (v : α) (d : Dict α) :
    (d.insert n v).contains name = (name == n || d.contains name) := by
  by_cases same : name = n
  · simp [contains, get?_insert, same]
  · simp [contains, get?_insert, same]

end Dict
end TestScenario
