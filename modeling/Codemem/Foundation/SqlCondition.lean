import Mathlib

/-!
# SQL conditions with placeholders

`TRIM`, the truth values of SQL with `NULL`, the connectives on them, and conditions with
placeholders.
A condition takes its parameters in the order in which its placeholders stand in the text, so a
conjunction of conditions splits the parameter list by their arities.  A `BoundClause` is a
condition beside the parameters meant for it; where clauses and parameters are collected in the
same order, the whole conjunction has the value of its bound clauses (`SqlFilter.satisfies_ofBound_iff`).
-/

namespace Codemem

/-- `TRIM(value)`, which removes blanks only. -/
def sqlTrim (text : String) : String :=
  String.ofList (((text.toList.dropWhile (· == ' ')).reverse.dropWhile (· == ' ')).reverse)

/-- A truth value of SQL; `none` is `NULL`. -/
abbrev SqlBool := Option Bool

namespace SqlBool

/-- `a AND b`. -/
def and : SqlBool → SqlBool → SqlBool
  | some false, _ => some false
  | some true, b => b
  | none, some false => some false
  | none, _ => none

/-- `a OR b`. -/
def or : SqlBool → SqlBool → SqlBool
  | some true, _ => some true
  | some false, b => b
  | none, some true => some true
  | none, _ => none

/-- `NOT a`. -/
def not (a : SqlBool) : SqlBool := a.map Bool.not

variable {α : Type*} [BEq α]

/-- `value = other`. -/
def eq (value other : Option α) : SqlBool := value.bind fun x => other.map fun y => x == y

/-- `value IN (items)`: nothing is in the empty list, not even `NULL`. -/
def isIn (value : Option α) (items : List α) : SqlBool :=
  if items.isEmpty then some false else value.map items.contains

@[simp] lemma and_eq_true_iff (a b : SqlBool) :
    a.and b = some true ↔ a = some true ∧ b = some true := by
  rcases a with _ | _ | _ <;> rcases b with _ | _ | _ <;> simp [SqlBool.and]

@[simp] lemma or_eq_true_iff (a b : SqlBool) :
    a.or b = some true ↔ a = some true ∨ b = some true := by
  rcases a with _ | _ | _ <;> rcases b with _ | _ | _ <;> simp [SqlBool.or]

@[simp] lemma or_eq_false_iff (a b : SqlBool) :
    a.or b = some false ↔ a = some false ∧ b = some false := by
  rcases a with _ | _ | _ <;> rcases b with _ | _ | _ <;> simp [SqlBool.or]

@[simp] lemma not_eq_true_iff (a : SqlBool) : a.not = some true ↔ a = some false := by
  rcases a with _ | _ | _ <;> simp [SqlBool.not]

lemma isIn_some (x : α) (items : List α) : isIn (some x) items = some (items.contains x) := by
  rcases items with _ | ⟨item, items⟩
  · rfl
  · rfl

variable [LawfulBEq α]

@[simp] lemma eq_eq_true_iff (value : Option α) (other : α) :
    SqlBool.eq value (some other) = some true ↔ value = some other := by
  rcases value with _ | x
  · simp [SqlBool.eq]
  · simp [SqlBool.eq]

@[simp] lemma isIn_eq_true_iff (value : Option α) (items : List α) :
    isIn value items = some true ↔ ∃ x ∈ items, value = some x := by
  rcases items with _ | ⟨item, items⟩
  · simp [isIn]
  · rcases value with _ | x
    · simp [isIn]
    · simp [isIn]

end SqlBool

variable {π ρ : Type*}

/-- A condition on a row, given the parameters for its placeholders. -/
structure SqlClause (π ρ : Type*) where
  /-- The number of its placeholders. -/
  arity : ℕ
  holds : List π → ρ → SqlBool

namespace SqlClause

/-- A condition without placeholders. -/
def fact (holds : ρ → SqlBool) : SqlClause π ρ := ⟨0, fun _ => holds⟩

/-- `a AND b`. -/
def and (a b : SqlClause π ρ) : SqlClause π ρ where
  arity := a.arity + b.arity
  holds params row :=
    SqlBool.and (a.holds (params.take a.arity) row) (b.holds (params.drop a.arity) row)

/-- `a OR b`. -/
def or (a b : SqlClause π ρ) : SqlClause π ρ where
  arity := a.arity + b.arity
  holds params row :=
    SqlBool.or (a.holds (params.take a.arity) row) (b.holds (params.drop a.arity) row)

/-- `NOT a`. -/
def not (a : SqlClause π ρ) : SqlClause π ρ := ⟨a.arity, fun params row => (a.holds params row).not⟩

/-- `COALESCE(a, 0)`. -/
def coalesceFalse (a : SqlClause π ρ) : SqlClause π ρ :=
  ⟨a.arity, fun params row => some ((a.holds params row).getD false)⟩

/-- The clauses joined by `AND`, or `1 = 1` when there are none. -/
def conj (clauses : List (SqlClause π ρ)) : SqlClause π ρ :=
  clauses.foldr and (fact fun _ => some true)

end SqlClause

/-- A condition and the parameters meant for its placeholders. -/
structure BoundClause (π ρ : Type*) where
  clause : SqlClause π ρ
  params : List π
  bound : params.length = clause.arity

namespace BoundClause

/-- The value of the condition under its own parameters. -/
def value (b : BoundClause π ρ) (row : ρ) : SqlBool := b.clause.holds b.params row

/-- A condition without placeholders. -/
def fact (holds : ρ → SqlBool) : BoundClause π ρ := ⟨.fact holds, [], rfl⟩

/-- `a AND b`. -/
def and (a b : BoundClause π ρ) : BoundClause π ρ where
  clause := a.clause.and b.clause
  params := a.params ++ b.params
  bound := by rw [List.length_append, a.bound, b.bound]; rfl

/-- `a OR b`. -/
def or (a b : BoundClause π ρ) : BoundClause π ρ where
  clause := a.clause.or b.clause
  params := a.params ++ b.params
  bound := by rw [List.length_append, a.bound, b.bound]; rfl

/-- `NOT a`. -/
def not (a : BoundClause π ρ) : BoundClause π ρ := ⟨a.clause.not, a.params, a.bound⟩

/-- `COALESCE(a, 0)`. -/
def coalesceFalse (a : BoundClause π ρ) : BoundClause π ρ :=
  ⟨a.clause.coalesceFalse, a.params, a.bound⟩

@[simp] lemma clause_not (a : BoundClause π ρ) : a.not.clause = a.clause.not := rfl

@[simp] lemma params_not (a : BoundClause π ρ) : a.not.params = a.params := rfl

lemma take_params (a b : BoundClause π ρ) :
    (a.params ++ b.params).take a.clause.arity = a.params ∧
      (a.params ++ b.params).drop a.clause.arity = b.params := by
  rw [← a.bound]
  exact ⟨List.take_left, List.drop_left⟩

variable (a b : BoundClause π ρ) (row : ρ)

def isTrue : Bool := a.value row == some true

lemma isTrue_iff : a.isTrue row = true ↔ a.value row = some true := beq_iff_eq

@[simp] lemma value_fact (holds : ρ → SqlBool) : (fact holds : BoundClause π ρ).value row =
    holds row := rfl

@[simp] lemma value_and : (a.and b).value row = (a.value row).and (b.value row) := by
  change SqlBool.and (a.clause.holds ((a.params ++ b.params).take a.clause.arity) row)
    (b.clause.holds ((a.params ++ b.params).drop a.clause.arity) row) = _
  rw [(take_params a b).1, (take_params a b).2]
  rfl

@[simp] lemma value_or : (a.or b).value row = (a.value row).or (b.value row) := by
  change SqlBool.or (a.clause.holds ((a.params ++ b.params).take a.clause.arity) row)
    (b.clause.holds ((a.params ++ b.params).drop a.clause.arity) row) = _
  rw [(take_params a b).1, (take_params a b).2]
  rfl

@[simp] lemma value_not : a.not.value row = (a.value row).not := rfl

@[simp] lemma value_coalesceFalse : a.coalesceFalse.value row = some ((a.value row).getD false) :=
  rfl

@[simp] lemma isTrue_fact (holds : ρ → Bool) :
    (fact fun row => some (holds row) : BoundClause π ρ).isTrue row = holds row := by
  rw [isTrue, value_fact]
  rcases holds row with _ | _
  · rfl
  · rfl

@[simp] lemma isTrue_or : (a.or b).isTrue row = (a.isTrue row || b.isTrue row) := by
  rw [Bool.eq_iff_iff, Bool.or_eq_true, isTrue_iff, isTrue_iff, isTrue_iff, value_or,
    SqlBool.or_eq_true_iff]

@[simp] lemma isTrue_not_coalesceFalse : a.coalesceFalse.not.isTrue row = !a.isTrue row := by
  rw [isTrue, isTrue, value_not, value_coalesceFalse]
  rcases a.value row with _ | _ | _
  · rfl
  · rfl
  · rfl

end BoundClause

/-- The conditions of a query and the parameters bound to it. -/
structure SqlFilter (π ρ : Type*) where
  clauses : List (SqlClause π ρ)
  params : List π

namespace SqlFilter

/-- A row satisfies the query: every placeholder has a parameter, none is left over, and the
condition is true. -/
def Satisfies (filter : SqlFilter π ρ) (row : ρ) : Prop :=
  filter.params.length = (SqlClause.conj filter.clauses).arity ∧
    (SqlClause.conj filter.clauses).holds filter.params row = some true

instance (filter : SqlFilter π ρ) (row : ρ) : Decidable (filter.Satisfies row) :=
  inferInstanceAs (Decidable (_ ∧ _))

/-- The filter of a list of conditions, each with its own parameters. -/
def ofBound (bounds : List (BoundClause π ρ)) : SqlFilter π ρ :=
  ⟨bounds.map BoundClause.clause, bounds.flatMap BoundClause.params⟩

@[simp] lemma ofBound_nil : (ofBound [] : SqlFilter π ρ) = ⟨[], []⟩ := rfl

lemma ofBound_singleton (b : BoundClause π ρ) : ofBound [b] = ⟨[b.clause], b.params⟩ := by
  rw [ofBound, List.flatMap_singleton]
  rfl

lemma ofBound_append (first second : List (BoundClause π ρ)) :
    ofBound (first ++ second) = ⟨(ofBound first).clauses ++ (ofBound second).clauses,
      (ofBound first).params ++ (ofBound second).params⟩ := by
  rw [ofBound, List.map_append, List.flatMap_append]
  rfl

lemma ofBound_arity (bounds : List (BoundClause π ρ)) :
    (ofBound bounds).params.length = (SqlClause.conj (ofBound bounds).clauses).arity := by
  induction bounds with
  | nil => rfl
  | cons b bounds ih =>
    change (b.params ++ (ofBound bounds).params).length =
      b.clause.arity + (SqlClause.conj (ofBound bounds).clauses).arity
    rw [List.length_append, b.bound, ih]

lemma satisfies_ofBound_iff (bounds : List (BoundClause π ρ)) (row : ρ) :
    (ofBound bounds).Satisfies row ↔ ∀ b ∈ bounds, b.value row = some true := by
  unfold Satisfies
  rw [and_iff_right (ofBound_arity bounds)]
  induction bounds with
  | nil => simp [ofBound, SqlClause.conj, SqlClause.fact]
  | cons b bounds ih =>
    have htake : (ofBound (b :: bounds)).params.take b.clause.arity = b.params := by
      rw [← b.bound]
      exact List.take_left
    have hdrop : (ofBound (b :: bounds)).params.drop b.clause.arity = (ofBound bounds).params := by
      rw [← b.bound]
      exact List.drop_left
    change SqlBool.and (b.clause.holds ((ofBound (b :: bounds)).params.take b.clause.arity) row)
      ((SqlClause.conj (ofBound bounds).clauses).holds
        ((ofBound (b :: bounds)).params.drop b.clause.arity) row) = some true ↔ _
    rw [htake, hdrop, SqlBool.and_eq_true_iff, ih, List.forall_mem_cons]
    rfl

lemma decide_satisfies_ofBound (bounds : List (BoundClause π ρ)) (row : ρ) :
    decide ((ofBound bounds).Satisfies row) = bounds.all fun b => b.isTrue row := by
  rw [Bool.eq_iff_iff, decide_eq_true_eq, satisfies_ofBound_iff, List.all_eq_true]
  exact forall₂_congr fun b _ => (b.isTrue_iff row).symm

end SqlFilter

end Codemem
