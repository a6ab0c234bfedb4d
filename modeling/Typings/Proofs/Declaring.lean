import Mathlib.Data.List.Induction
import Mathlib.Data.List.Nodup
import Typings.Generation

/-! # Declaring names in order

Objects, and after them contexts, ask one by one for a name that is not declared yet. What is
declared at any moment is what was declared at first together with the names granted so far. A run
over a list can therefore be cut anywhere: behind names that could be granted it continues as a run
that starts with these names declared.
-/

namespace Typings

open Docs

/-- The names can be declared one after the other: they are distinct, and none is declared
already. -/
def NewNames (declared names : List String) : Prop :=
  names.Nodup ∧ ∀ name ∈ names, name ∉ declared

theorem NewNames.nil (declared : List String) : NewNames declared [] :=
  ⟨List.nodup_nil, by simp⟩

/-- Granting one name leaves the question for the others, with that name declared. -/
theorem newNames_cons {declared names : List String} {name : String} :
    NewNames declared (name :: names) ↔ name ∉ declared ∧ NewNames (name :: declared) names := by
  simp only [NewNames, List.nodup_cons, List.mem_cons, forall_eq_or_imp]
  constructor
  · rintro ⟨⟨hnot, hnodup⟩, hname, hnames⟩
    refine ⟨hname, hnodup, ?_⟩
    rintro other hother (rfl | hdeclared)
    · exact hnot hother
    · exact hnames other hother hdeclared
  · rintro ⟨hname, hnodup, hnames⟩
    exact ⟨⟨fun hmem => hnames name hmem (Or.inl rfl), hnodup⟩, hname,
      fun other hother hdeclared => hnames other hother (Or.inr hdeclared)⟩

/-- Granting some names leaves the question for the others, with those names declared. -/
theorem newNames_append {declared names others : List String} :
    NewNames declared (names ++ others) ↔
      NewNames declared names ∧ NewNames (names.reverse ++ declared) others := by
  induction names generalizing declared with
  | nil => simp [NewNames.nil]
  | cons name names ih =>
      rw [List.cons_append, newNames_cons, newNames_cons, ih, and_assoc, List.reverse_cons,
        List.append_assoc, List.singleton_append]

theorem newNames_concat {declared names : List String} {name : String} :
    NewNames declared (names ++ [name]) ↔
      NewNames declared names ∧ name ∉ declared ∧ name ∉ names := by
  simp [newNames_append, newNames_cons, NewNames.nil, and_comm]

/-- Distinct names stay distinct with new ones behind them. -/
theorem NewNames.nodup_append {declared names : List String} (hnew : NewNames declared names)
    (hdeclared : declared.Nodup) : (declared ++ names).Nodup := by
  refine List.nodup_append.mpr ⟨hdeclared, hnew.1, ?_⟩
  rintro name hname _ hother rfl
  exact hnew.2 name hother hname

/-- A list either satisfies a property that holds of the empty list, or has a first entry that
breaks it. -/
theorem exists_first_break {α : Type*} (p : List α → Prop) (hnil : p []) (entries : List α) :
    p entries ∨ ∃ before entry after,
      entries = before ++ entry :: after ∧ p before ∧ ¬ p (before ++ [entry]) := by
  induction entries using List.reverseRecOn with
  | nil => exact Or.inl hnil
  | append_singleton entries entry ih =>
      rcases ih with hp | ⟨before, first, after, heq, hp, hbreak⟩
      · by_cases hnext : p (entries ++ [entry])
        · exact Or.inl hnext
        · exact Or.inr ⟨entries, entry, [], rfl, hp, hnext⟩
      · exact Or.inr ⟨before, first, after ++ [entry], by simp [heq], hp, hbreak⟩

/-! ## Single names -/

theorem reserve_new {declared : List String} {typeName : String} (name : String)
    (hnew : typeName ∉ declared) : reserve declared name typeName = .ok (typeName :: declared) := by
  simp [reserve, hnew]

theorem reserve_taken {declared : List String} {typeName : String} (name : String)
    (htaken : typeName ∈ declared) :
    reserve declared name typeName = .error (.duplicateName name typeName) := by
  simp [reserve, htaken]

theorem checkedTypeName_valid {o : Object} (hvalid : isTypeName (typeName o.name) = true) :
    o.checkedTypeName = .ok (typeName o.name) := by
  simp [Object.checkedTypeName, hvalid]

theorem checkedTypeName_invalid {o : Object} (hinvalid : ¬ isTypeName (typeName o.name) = true) :
    o.checkedTypeName = .error (.invalidTypeName o.name (typeName o.name)) := by
  simp [Object.checkedTypeName, hinvalid]

theorem checkedDeclaration_valid {c : Context}
    (hvalid : isTypeName (contextName c.template) = true) :
    c.checkedDeclaration = .ok c.declaration := by
  simp [Context.checkedDeclaration, hvalid]

theorem checkedDeclaration_invalid {c : Context}
    (hinvalid : ¬ isTypeName (contextName c.template) = true) :
    c.checkedDeclaration =
      .error (.invalidContextName c.template (contextName c.template)) := by
  simp [Context.checkedDeclaration, hinvalid]

/-! ## Objects -/

/-- The type names of objects, in order. -/
def objectNames (objects : List Object) : List String :=
  objects.map fun o => typeName o.name

/-- The declarations of objects, each under its type name. -/
def objectDeclarations (objects : List Object) : List Declaration :=
  objects.map fun o => o.declaration (typeName o.name)

/-- Every object has a type name that can be declared, and all of them can be declared one after
the other. -/
structure Nameable (declared : List String) (objects : List Object) : Prop where
  valid : ∀ o ∈ objects, isTypeName (typeName o.name) = true
  new : NewNames declared (objectNames objects)

theorem Nameable.nil (declared : List String) : Nameable declared [] :=
  ⟨by simp, NewNames.nil declared⟩

theorem nameable_cons {declared : List String} {o : Object} {rest : List Object} :
    Nameable declared (o :: rest) ↔ isTypeName (typeName o.name) = true ∧
      typeName o.name ∉ declared ∧ Nameable (typeName o.name :: declared) rest := by
  constructor
  · rintro ⟨hvalid, hnew⟩
    obtain ⟨hhead, hrest⟩ := newNames_cons.mp hnew
    exact ⟨hvalid o List.mem_cons_self, hhead,
      fun other hother => hvalid other (List.mem_cons_of_mem _ hother), hrest⟩
  · rintro ⟨hvalid, hhead, hrest⟩
    exact ⟨List.forall_mem_cons.mpr ⟨hvalid, hrest.valid⟩, newNames_cons.mpr ⟨hhead, hrest.new⟩⟩

/-- One object that can be named is declared under its name, which is then taken. -/
theorem declareObjects_cons {declared : List String} {o : Object} (rest : List Object)
    (hvalid : isTypeName (typeName o.name) = true) (hnew : typeName o.name ∉ declared) :
    declareObjects declared (o :: rest) =
      (declareObjects (typeName o.name :: declared) rest).map
        (Prod.map (o.declaration (typeName o.name) :: ·) id) := by
  rw [declareObjects, checkedTypeName_valid hvalid]
  change (reserve declared o.name (typeName o.name) >>= _) = _
  rw [reserve_new o.name hnew]
  change (declareObjects (typeName o.name :: declared) rest >>= _) = _
  cases declareObjects (typeName o.name :: declared) rest <;> rfl

/-- Behind objects that can be named, a run continues with their names declared. -/
theorem declareObjects_append {declared : List String} {before : List Object}
    (hbefore : Nameable declared before) (rest : List Object) :
    declareObjects declared (before ++ rest) =
      (declareObjects ((objectNames before).reverse ++ declared) rest).map
        (Prod.map (objectDeclarations before ++ ·) id) := by
  -- The names declared before grow with every object, so the induction is for all of them.
  induction before generalizing declared with
  | nil =>
      change declareObjects declared rest = (declareObjects declared rest).map _
      cases declareObjects declared rest <;> rfl
  | cons o before ih =>
      obtain ⟨hvalid, hnew, hrest⟩ := nameable_cons.mp hbefore
      rw [List.cons_append, declareObjects_cons _ hvalid hnew, ih hrest]
      simp only [objectNames, List.map_cons, List.reverse_cons, List.append_assoc,
        List.singleton_append]
      cases declareObjects _ rest <;> rfl

theorem declareObjects_nameable {declared : List String} {objects : List Object}
    (hnameable : Nameable declared objects) :
    declareObjects declared objects =
      .ok (objectDeclarations objects, (objectNames objects).reverse ++ declared) := by
  have happend := declareObjects_append hnameable []
  rw [List.append_nil] at happend
  rw [happend]
  simp [declareObjects, Except.map]

/-- An object whose name cannot be declared stops the run behind objects that can be named. -/
theorem declareObjects_invalid {declared : List String} {before : List Object} {o : Object}
    (after : List Object) (hbefore : Nameable declared before)
    (hinvalid : ¬ isTypeName (typeName o.name) = true) :
    declareObjects declared (before ++ o :: after) =
      .error (.invalidTypeName o.name (typeName o.name)) := by
  rw [declareObjects_append hbefore, declareObjects, checkedTypeName_invalid hinvalid]
  rfl

/-- An object whose name is declared already stops the run behind objects that can be named. -/
theorem declareObjects_taken {declared : List String} {before : List Object} {o : Object}
    (after : List Object) (hbefore : Nameable declared before)
    (hvalid : isTypeName (typeName o.name) = true)
    (htaken : typeName o.name ∈ declared ∨ typeName o.name ∈ objectNames before) :
    declareObjects declared (before ++ o :: after) =
      .error (.duplicateName o.name (typeName o.name)) := by
  have hmem : typeName o.name ∈ (objectNames before).reverse ++ declared := by
    simpa [or_comm] using htaken
  rw [declareObjects_append hbefore, declareObjects, checkedTypeName_valid hvalid]
  change Except.map _ (reserve _ o.name (typeName o.name) >>= _) = _
  rw [reserve_taken o.name hmem]
  rfl

/-! ## Contexts -/

theorem contextDeclarations_cons {c : Context} (rest : List Context)
    (hvalid : isTypeName (contextName c.template) = true) :
    contextDeclarations (c :: rest) = (contextDeclarations rest).map (c.declaration :: ·) := by
  rw [contextDeclarations, List.mapM_cons, checkedDeclaration_valid hvalid]
  change (contextDeclarations rest >>= _) = _
  cases contextDeclarations rest <;> rfl

/-- Behind contexts whose names can be declared, the check continues. -/
theorem contextDeclarations_append {before : List Context}
    (hbefore : ∀ c ∈ before, isTypeName (contextName c.template) = true) (rest : List Context) :
    contextDeclarations (before ++ rest) =
      (contextDeclarations rest).map (before.map Context.declaration ++ ·) := by
  induction before with
  | nil =>
      change contextDeclarations rest = (contextDeclarations rest).map _
      cases contextDeclarations rest <;> rfl
  | cons c before ih =>
      obtain ⟨hvalid, hrest⟩ := List.forall_mem_cons.mp hbefore
      rw [List.cons_append, contextDeclarations_cons _ hvalid, ih hrest]
      cases contextDeclarations rest <;> rfl

theorem contextDeclarations_valid {contexts : List Context}
    (hvalid : ∀ c ∈ contexts, isTypeName (contextName c.template) = true) :
    contextDeclarations contexts = .ok (contexts.map Context.declaration) := by
  have happend := contextDeclarations_append hvalid []
  rw [List.append_nil] at happend
  rw [happend]
  simp [contextDeclarations, Except.map, pure, Except.pure]

theorem contextDeclarations_invalid {before : List Context} {c : Context} (after : List Context)
    (hbefore : ∀ c ∈ before, isTypeName (contextName c.template) = true)
    (hinvalid : ¬ isTypeName (contextName c.template) = true) :
    contextDeclarations (before ++ c :: after) =
      .error (.invalidContextName c.template (contextName c.template)) := by
  rw [contextDeclarations_append hbefore, contextDeclarations, List.mapM_cons,
    checkedDeclaration_invalid hinvalid]
  rfl

/-- Behind declarations with new names, the check continues with these names declared. -/
theorem reserveAll_append {declared : List String} {before : List Declaration}
    (hbefore : NewNames declared (before.map (·.name))) (rest : List Declaration) :
    reserveAll declared (before ++ rest) =
      reserveAll ((before.map (·.name)).reverse ++ declared) rest := by
  induction before generalizing declared with
  | nil => rfl
  | cons d before ih =>
      obtain ⟨hnew, hrest⟩ := newNames_cons.mp hbefore
      rw [List.cons_append, reserveAll, reserve_new d.name hnew]
      change reserveAll (d.name :: declared) (before ++ rest) = _
      rw [ih hrest]
      simp

theorem reserveAll_new {declared : List String} {declarations : List Declaration}
    (hnew : NewNames declared (declarations.map (·.name))) :
    reserveAll declared declarations = .ok () := by
  have happend := reserveAll_append hnew []
  rwa [List.append_nil] at happend

theorem reserveAll_taken {declared : List String} {before : List Declaration} {d : Declaration}
    (after : List Declaration) (hbefore : NewNames declared (before.map (·.name)))
    (htaken : d.name ∈ declared ∨ d.name ∈ before.map (·.name)) :
    reserveAll declared (before ++ d :: after) = .error (.duplicateName d.name d.name) := by
  have hmem : d.name ∈ (before.map (·.name)).reverse ++ declared := by
    simpa [or_comm] using htaken
  rw [reserveAll_append hbefore, reserveAll, reserve_taken d.name hmem]
  rfl

end Typings
