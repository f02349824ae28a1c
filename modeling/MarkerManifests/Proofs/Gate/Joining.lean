import MarkerManifests.Proofs.Gate.Grammar

/-!
# Joined conditions

Names and expressions in parentheses can be joined with one operator, in any number and order. The
joined text is a chain of the grammar, and it holds where all of its members hold or where one does.
-/

namespace MarkerManifests
namespace Gate

namespace Operator

/-- The value of several conditions with the operator between them. -/
def combine : Operator → List Bool → Bool
  | all, values => values.all id
  | any, values => values.any id

/-- Several texts with the operator between them. -/
def joined (operator : Operator) (texts : List String) : String :=
  (String.singleton operator.symbol).intercalate texts

/-- The first two texts can be joined before the others. -/
theorem joined_cons_cons (operator : Operator) (first second : String) (others : List String) :
    operator.joined (first :: second :: others) =
      operator.joined ((first.push operator.symbol ++ second) :: others) := by
  rw [joined, joined, String.intercalate_cons_cons, String.intercalate_cons_append,
    String.push_eq_append]

theorem combine_cons_cons
    (operator : Operator)
    (left right : Expr)
    (state : State)
    (others : List Bool) :
    operator.combine (left.eval state :: right.eval state :: others) =
      operator.combine ((Expr.join operator left right).eval state :: others) := by
  cases operator with
  | all => simp [combine, Expr.join, Bool.and_assoc]
  | any => simp [combine, Expr.join, Bool.or_assoc]

/-- The order of the conditions does not matter. -/
theorem combine_eq_of_perm
    (operator : Operator)
    {values others : List Bool}
    (permutes : values.Perm others) :
    operator.combine values = operator.combine others := by
  cases operator with
  | all => exact permutes.all_eq
  | any => exact permutes.any_eq

end Operator

namespace Expr

/-- A gate name, or an expression in parentheses. -/
def IsTerm (text : String) : Prop :=
  isName text.toList = true ∨
    ∃ (inner : String) (expr : Expr), ofText inner = .ok expr ∧ text = "(" ++ inner ++ ")"

/-- Whether the text spells a condition that holds in the state. -/
def holds (state : State) (text : String) : Bool :=
  match evaluate text state with
  | .ok value => value
  | .error _ => false

theorem holds_iff {state : State} {text : String} :
    holds state text = true ↔ evaluate text state = .ok true := by
  unfold holds
  cases evaluate text state <;> simp

variable {operator : Operator} {text first : String} {state : State} {expr left : Expr}

theorem evaluate_of_derives (derives : Derives .expr text.toList expr) :
    evaluate text state = .ok (expr.eval state) := by
  rw [evaluate, ofText, derives.read_eq_ok]
  rfl

theorem IsTerm.exists_derives (isTerm : IsTerm text) : ∃ expr, Derives .term text.toList expr := by
  rcases isTerm with named | ⟨inner, expr, isRead, rfl⟩
  · exact ⟨_, .name named⟩
  · have group := Derives.group (derives_of_read isRead)
    exact ⟨expr, by simpa using group⟩

theorem holds_of_derives (derives : Derives .term text.toList expr) :
    holds state text = expr.eval state := by
  rw [holds, evaluate_of_derives (.chain (.first .all derives))]

/-- A chain goes on with any number of terms. -/
theorem exists_derives_joined
    {rest : List String}
    (derives : Derives (.chain operator) first.toList left)
    (terms : ∀ text ∈ rest, IsTerm text) :
    ∃ expr, Derives (.chain operator) (operator.joined (first :: rest)).toList expr ∧
      ∀ state, expr.eval state =
        operator.combine (left.eval state :: rest.map (holds state)) := by
  induction rest generalizing first left with
  | nil =>
      refine ⟨left, ?_, fun state => ?_⟩
      · rwa [Operator.joined, String.intercalate_singleton]
      · cases operator <;> simp [Operator.combine]
  | cons second others inductionHypothesis =>
      rw [List.forall_mem_cons] at terms
      obtain ⟨right, isSecond⟩ := terms.1.exists_derives
      have both : Derives (.chain operator) (first.push operator.symbol ++ second).toList
          (join operator left right) := by
        simpa using derives.next isSecond
      obtain ⟨expr, whole, value⟩ := inductionHypothesis both terms.2
      refine ⟨expr, ?_, fun state => ?_⟩
      · rwa [Operator.joined_cons_cons]
      · rw [value, List.map_cons, holds_of_derives isSecond, Operator.combine_cons_cons]

/-- Terms that are joined with an operator are read, and their values are combined with it. -/
theorem evaluate_joined
    {texts : List String}
    (nonempty : texts ≠ [])
    (terms : ∀ text ∈ texts, IsTerm text)
    (operator : Operator)
    (state : State) :
    evaluate (operator.joined texts) state =
      .ok (operator.combine (texts.map (holds state))) := by
  obtain ⟨first, rest, rfl⟩ := List.exists_cons_of_ne_nil nonempty
  rw [List.forall_mem_cons] at terms
  obtain ⟨left, isFirst⟩ := terms.1.exists_derives
  obtain ⟨expr, whole, value⟩ := exists_derives_joined (.first operator isFirst) terms.2
  rw [evaluate_of_derives (.chain whole), value, List.map_cons, holds_of_derives isFirst]

/-- The order in which terms are joined does not matter. -/
theorem evaluate_joined_perm
    {texts permuted : List String}
    (nonempty : texts ≠ [])
    (terms : ∀ text ∈ texts, IsTerm text)
    (permutes : texts.Perm permuted)
    (operator : Operator)
    (state : State) :
    evaluate (operator.joined permuted) state =
      .ok (operator.combine (texts.map (holds state))) := by
  have nonemptyToo : permuted ≠ [] := by
    rintro rfl
    exact nonempty permutes.eq_nil
  rw [evaluate_joined nonemptyToo (fun text member => terms text (permutes.mem_iff.mpr member)),
    operator.combine_eq_of_perm (permutes.map (holds state))]

/-- Terms that are joined with an operator are read in every order, and the joined text holds where
all of them do or where one of them does. -/
theorem evaluate_intercalate
    {texts permuted : List String}
    (nonempty : texts ≠ [])
    (terms : ∀ text ∈ texts, IsTerm text)
    (permutes : texts.Perm permuted)
    (state : State) :
    (∃ value, evaluate ("&".intercalate texts) state = .ok value ∧
        evaluate ("&".intercalate permuted) state = .ok value ∧
          (value = true ↔ ∀ text ∈ texts, evaluate text state = .ok true)) ∧
      ∃ value, evaluate ("|".intercalate texts) state = .ok value ∧
        evaluate ("|".intercalate permuted) state = .ok value ∧
          (value = true ↔ ∃ text ∈ texts, evaluate text state = .ok true) := by
  have joined := evaluate_joined nonempty terms
  have joinedToo := evaluate_joined_perm nonempty terms permutes
  refine ⟨⟨_, joined .all state, joinedToo .all state, ?_⟩,
    ⟨_, joined .any state, joinedToo .any state, ?_⟩⟩
  · simp [Operator.combine, holds_iff]
  · simp [Operator.combine, holds_iff]

/-- The state in which a, c and d are on. -/
def threeOn : State :=
  ((State.empty.set "a" true).set "c" true).set "d" true

theorem evaluate_intercalate_three_terms :
    (∀ text ∈ ["a", "(b|c)", "d"], IsTerm text) ∧
      ["a", "(b|c)", "d"].Perm ["(b|c)", "d", "a"] ∧
        evaluate ("&".intercalate ["(b|c)", "d", "a"]) threeOn = .ok true ∧
          evaluate ("|".intercalate ["(b|c)", "d", "a"]) threeOn = .ok true := by
  have terms : ∀ text ∈ ["a", "(b|c)", "d"], IsTerm text := by
    simp only [List.forall_mem_cons, List.not_mem_nil, false_implies, implies_true, and_true]
    exact ⟨.inl rfl, .inr ⟨"b|c", .or (.literal "b") (.literal "c"), rfl, rfl⟩, .inl rfl⟩
  have permutes : ["a", "(b|c)", "d"].Perm ["(b|c)", "d", "a"] := by decide
  have hold : ∀ text ∈ ["a", "(b|c)", "d"], evaluate text threeOn = .ok true := by
    simp only [List.forall_mem_cons, List.not_mem_nil, false_implies, implies_true, and_true]
    exact ⟨rfl, rfl, rfl⟩
  obtain ⟨⟨every, -, isEvery, everyHolds⟩, some, -, isSome, someHolds⟩ :=
    evaluate_intercalate (List.cons_ne_nil _ _) terms permutes threeOn
  refine ⟨terms, permutes, ?_, ?_⟩
  · rw [isEvery, everyHolds.mpr hold]
  · rw [isSome, someHolds.mpr ⟨"a", List.mem_cons_self, hold _ List.mem_cons_self⟩]

end Expr

end Gate
end MarkerManifests
