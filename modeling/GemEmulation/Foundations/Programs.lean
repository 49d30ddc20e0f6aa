import Mathlib.Order.Defs.Unbundled

/-!
# Programs over a state

Programs that read an environment and transform a state, with the rules for
reasoning about them: guarantees, which relate the states before and after
whatever the environment does, and triples, which also speak about results.
-/

namespace GemEmulation.Foundations

/-- Programs with an environment and a state. -/
abbrev Program (Env State Result : Type) := ReaderT Env (StateM State) Result

namespace Program

variable {Env State Result Next Item : Type}

theorem bind_apply (program : Program Env State Result)
    (next : Result → Program Env State Next) (env : Env) (state : State) :
    (program >>= next) env state =
      next (program env state).1 env (program env state).2 := rfl

@[simp]
theorem pure_apply (result : Result) (env : Env) (state : State) :
    (pure result : Program Env State Result) env state = (result, state) := rfl

/-- Every execution relates the state before to the state after. -/
def Guarantees (relation : State → State → Prop) (program : Program Env State Result) : Prop :=
  ∀ env state, relation state (program env state).2

section Guarantees

variable {relation : State → State → Prop} {program : Program Env State Result}
  {next : Result → Program Env State Next}

theorem Guarantees.pure [Std.Refl relation] (result : Result) :
    Guarantees relation (pure result : Program Env State Result) :=
  fun _ state => Std.Refl.refl state

theorem Guarantees.bind [IsTrans State relation] (first : Guarantees relation program)
    (rest : ∀ result, Guarantees relation (next result)) :
    Guarantees relation (program >>= next) :=
  fun env state => IsTrans.trans _ _ _ (first env state) (rest _ env _)

theorem Guarantees.weaken {weaker : State → State → Prop}
    (guaranteed : Guarantees relation program)
    (implication : ∀ before after, relation before after → weaker before after) :
    Guarantees weaker program :=
  fun env state => implication _ _ (guaranteed env state)

theorem Guarantees.bind_known [IsTrans State relation] (property : Result → Prop)
    (first : Guarantees relation program) (known : ∀ env state, property (program env state).1)
    (rest : ∀ result, property result → Guarantees relation (next result)) :
    Guarantees relation (program >>= next) :=
  fun env state => IsTrans.trans _ _ _ (first env state) (rest _ (known env state) env _)

theorem Guarantees.foldlM [Std.Refl relation] [IsTrans State relation]
    {step : Result → Item → Program Env State Result} (items : List Item)
    (each : ∀ item ∈ items, ∀ result, Guarantees relation (step result item)) :
    ∀ result, Guarantees relation (items.foldlM step result) := by
  induction items with
  | nil => exact fun result => .pure result
  | cons item rest inductionHypothesis =>
      intro result
      rw [List.foldlM_cons]
      exact (each item List.mem_cons_self result).bind
        (inductionHypothesis fun item listed => each item (List.mem_cons_of_mem _ listed))

end Guarantees

/-- A property of states that is not lost. -/
def Keeps (property : State → Prop) (before after : State) : Prop :=
  property before → property after

instance (property : State → Prop) : Std.Refl (Keeps property) := ⟨fun _ => id⟩

instance (property : State → Prop) : IsTrans State (Keeps property) :=
  ⟨fun _ _ _ first second => second ∘ first⟩

/-- The rest may rely on what a result says about the states with the property. -/
theorem Guarantees.bind_keeps {property : State → Prop} {program : Program Env State Result}
    {next : Result → Program Env State Next} (known : Result → Prop)
    (first : Guarantees (Keeps property) program)
    (results : ∀ env state, property state → known (program env state).1)
    (rest : ∀ result, known result → Guarantees (Keeps property) (next result)) :
    Guarantees (Keeps property) (program >>= next) :=
  fun env state holds => rest _ (results env state holds) env _ (first env state holds)

/-- From a state with the precondition, the result and the state after have the
postcondition. -/
def Triple (env : Env) (pre : State → Prop) (program : Program Env State Result)
    (post : Result → State → Prop) : Prop :=
  ∀ state, pre state → post (program env state).1 (program env state).2

section Triple

variable {env : Env} {pre : State → Prop} {program : Program Env State Result}
  {next : Result → Program Env State Next} {post : Result → State → Prop}
  {final : Next → State → Prop}

theorem Triple.pure {result : Result} (holds : ∀ state, pre state → post result state) :
    Triple env pre (pure result) post := holds

theorem Triple.bind (first : Triple env pre program post)
    (rest : ∀ result, Triple env (post result) (next result) final) :
    Triple env pre (program >>= next) final :=
  fun state holds => rest _ _ (first state holds)

theorem Triple.consequence {stronger : State → Prop} {weaker : Result → State → Prop}
    (triple : Triple env pre program post) (before : ∀ state, stronger state → pre state)
    (after : ∀ result state, post result state → weaker result state) :
    Triple env stronger program weaker :=
  fun state holds => after _ _ (triple state (before state holds))

/-- A guarantee carries a fact about the state before to the state after. -/
theorem Guarantees.triple {relation : State → State → Prop}
    (guaranteed : Guarantees relation program) (env : Env) (start : State) :
    Triple env (· = start) program fun _ state => relation start state := by
  rintro state rfl
  exact guaranteed env state

theorem Guarantees.keeps {property : State → Prop}
    (guaranteed : Guarantees (Keeps property) program) (env : Env) :
    Triple env property program fun _ => property :=
  fun state holds => guaranteed env state holds

theorem Triple.foldlM {step : Result → Item → Program Env State Result}
    (invariant : List Item → Result → State → Prop) {items : List Item}
    (each : ∀ front item rest, items = front ++ item :: rest → ∀ result,
      Triple env (invariant front result) (step result item) (invariant (front ++ [item]))) :
    ∀ result, Triple env (invariant [] result) (items.foldlM step result) (invariant items) := by
  have general : ∀ (rest front : List Item) (result : Result), items = front ++ rest →
      Triple env (invariant front result) (rest.foldlM step result) (invariant items) := by
    intro rest
    induction rest with
    | nil =>
        intro front result whole
        rw [List.append_nil] at whole
        exact .pure fun state holds => whole ▸ holds
    | cons item rest inductionHypothesis =>
        intro front result whole
        rw [List.foldlM_cons]
        exact (each front item rest whole result).bind fun result' =>
          inductionHypothesis (front ++ [item]) result' (by simpa using whole)
  exact fun result => general items [] result rfl

end Triple

end Program

end GemEmulation.Foundations
