import Mathlib.Data.List.TakeWhile
import Typings.Proofs.Success
import Typings.Settings.Arguments

/-! # Switches among arguments

A switch of the subcommand that has one long name and no other is on exactly if this name stands
among the arguments. Arguments without it ask for the same with the switch on once it is put behind
the subcommand.
-/

namespace Typings.Settings

/-- The subcommand has the switch under one long name, and nothing else has. -/
structure LongSwitch (s : Switch) (name : String) : Prop where
  long : generateNames.long.lookup name = some (.switch s)
  only : ∀ entry ∈ generateNames.long, entry.2 = .switch s → entry.1 = name
  noShort : ∀ entry ∈ generateNames.short, entry.2 ≠ .switch s
  notOuter : outerNames.long.lookup name = none
  unassigned : '=' ∉ name.toList
  nonempty : name.toList ≠ []
  notVerbose : s ≠ .verbose

/-- The option that turns on the switch of a name. -/
def longOption (name : String) : String := String.ofList ('-' :: '-' :: name.toList)

theorem stdout_longSwitch : LongSwitch .stdout "stdout" := by
  constructor <;> decide

theorem check_longSwitch : LongSwitch .check "check" := by
  constructor <;> decide

theorem mem_of_lookup {α β : Type} [BEq α] [LawfulBEq α] {entries : List (α × β)} {key : α}
    {value : β} (h : entries.lookup key = some value) : (key, value) ∈ entries := by
  obtain ⟨before, after, rfl, _⟩ := List.lookup_eq_some_iff.mp h
  simp

namespace Arguments

variable {a b : Arguments} {s k : Switch}

theorem takeSwitch_eq_ok (h : a.takeSwitch k = .ok b) :
    k ≠ .help ∧ k ≠ .version ∧ a.has k = false ∧ b = a.switchOn k := by
  unfold takeSwitch at h
  split at h
  · cases h
  split at h
  · cases h
  split at h
  · cases h
  next hhelp hversion hhas =>
    cases h
    exact ⟨hhelp, hversion, by simpa using hhas, rfl⟩

theorem has_switchOn (hhelp : k ≠ .help) (hversion : k ≠ .version) :
    (a.switchOn k).has s = (a.has s || decide (k = s)) := by
  cases k <;> cases s <;> simp_all [switchOn, has]

theorem switchOn_comm : (a.switchOn k).switchOn s = (a.switchOn s).switchOn k := by
  cases k <;> cases s <;> rfl

theorem takeSwitch_switchOn (h : a.takeSwitch k = .ok b) (hne : k ≠ s) :
    (a.switchOn s).takeSwitch k = .ok (b.switchOn s) := by
  obtain ⟨hhelp, hversion, hhas, rfl⟩ := takeSwitch_eq_ok h
  have hhas' : (a.switchOn s).has k = false := by
    rw [← hhas]
    cases s <;> cases k <;> first | rfl | exact absurd rfl hne
  rw [takeSwitch, if_neg hhelp, if_neg hversion, hhas', switchOn_comm]
  rfl

theorem takeValue_eq_ok {v : Valued} {value : String} (h : a.takeValue v value = .ok b) :
    b = a.setValue value v := by
  unfold takeValue at h
  split at h
  · cases h
  split at h
  · cases h
  · cases h
    rfl

theorem has_setValue {v : Valued} {value : String} : (a.setValue value v).has s = a.has s := by
  cases v <;> cases s <;> rfl

theorem takeValue_switchOn (v : Valued) (value : String) :
    (a.switchOn s).takeValue v value = (a.takeValue v value).map (·.switchOn s) := by
  have hvalue : (a.switchOn s).valueOf v = a.valueOf v := by cases s <;> cases v <;> rfl
  have hset : (a.switchOn s).setValue value v = (a.setValue value v).switchOn s := by
    cases s <;> cases v <;> rfl
  unfold takeValue
  rw [hvalue, hset]
  split
  · rfl
  split
  · rfl
  · rfl

end Arguments

/-! ## Steps -/

/-- The arguments so far with the switch on. -/
def Progress.turnOn (p : Progress) (s : Switch) : Progress :=
  { p with taken := p.taken.switchOn s }

/-- The step turns the switch on exactly if it is given one, and otherwise it takes no note of
whether the switch is on already. -/
structure Heeds (s : Switch) (given : Bool) (step : Progress → Except UsageError Progress) :
    Prop where
  has : ∀ {p q}, step p = .ok q → q.taken.has s = (p.taken.has s || given)
  ahead : ∀ {p q}, step p = .ok q → q.taken.has s = false → step (p.turnOn s) = .ok (q.turnOn s)

section Steps

variable {s : Switch} {name : String} {p : Progress} {a : Arguments}

theorem resolve_has (h : p.resolve = .ok a) : a.has s = p.taken.has s := by
  unfold Progress.resolve at h
  split at h
  · cases h
    rfl
  · cases h
  · rw [Arguments.takeValue_eq_ok h, Arguments.has_setValue]

theorem resolve_turnOn (h : p.resolve = .ok a) : (p.turnOn s).resolve = .ok (a.switchOn s) := by
  obtain ⟨taken, pending⟩ := p
  unfold Progress.resolve Progress.turnOn at *
  cases pending with
  | none =>
      cases h
      rfl
  | some option =>
      obtain ⟨v, value⟩ := option
      cases value with
      | none => cases h
      | some value =>
          change taken.takeValue v value = .ok a at h
          change (taken.switchOn s).takeValue v value = _
          rw [Arguments.takeValue_switchOn, h]
          rfl

theorem switch_heeds (s k : Switch) : Heeds s (decide (k = s)) (·.switch k) where
  has := by
    intro p q h
    obtain ⟨taken, htaken, h⟩ := bind_eq_ok.mp h
    obtain ⟨next, hnext, h⟩ := bind_eq_ok.mp h
    cases h
    obtain ⟨hhelp, hversion, _, rfl⟩ := Arguments.takeSwitch_eq_ok hnext
    rw [Arguments.has_switchOn hhelp hversion, resolve_has htaken]
  ahead := by
    intro p q h hoff
    obtain ⟨taken, htaken, h⟩ := bind_eq_ok.mp h
    obtain ⟨next, hnext, h⟩ := bind_eq_ok.mp h
    cases h
    have hne : k ≠ s := by
      rintro rfl
      obtain ⟨hhelp, hversion, _, rfl⟩ := Arguments.takeSwitch_eq_ok hnext
      simp [Arguments.has_switchOn hhelp hversion] at hoff
    exact bind_eq_ok.mpr ⟨_, resolve_turnOn htaken,
      bind_eq_ok.mpr ⟨_, Arguments.takeSwitch_switchOn hnext hne, rfl⟩⟩

theorem valued_heeds (s : Switch) (v : Valued) (attached : Option String) :
    Heeds s false (·.valued v attached) where
  has := by
    intro p q h
    obtain ⟨taken, htaken, h⟩ := bind_eq_ok.mp h
    rw [Bool.or_false, ← resolve_has htaken]
    cases attached with
    | none =>
        cases h
        rfl
    | some value =>
        obtain ⟨next, hnext, h⟩ := bind_eq_ok.mp h
        cases h
        rw [Arguments.takeValue_eq_ok hnext, Arguments.has_setValue]
  ahead := by
    intro p q h _
    obtain ⟨taken, htaken, h⟩ := bind_eq_ok.mp h
    refine bind_eq_ok.mpr ⟨_, resolve_turnOn htaken, ?_⟩
    cases attached with
    | none =>
        cases h
        rfl
    | some value =>
        obtain ⟨next, hnext, h⟩ := bind_eq_ok.mp h
        cases h
        refine bind_eq_ok.mpr ⟨next.switchOn s, ?_, rfl⟩
        rw [Arguments.takeValue_switchOn, hnext]
        rfl

theorem Heeds.fail {given : Bool} (e : UsageError) : Heeds s given fun _ => .error e where
  has := fun h => by cases h
  ahead := fun h => by cases h

theorem Heeds.done : Heeds s false .ok where
  has := by
    intro p q h
    cases h
    simp
  ahead := by
    intro p q h _
    cases h
    rfl

theorem Heeds.andThen {first second : Bool} {step next : Progress → Except UsageError Progress}
    (hstep : Heeds s first step) (hnext : Heeds s second next) :
    Heeds s (first || second) fun p => step p >>= next where
  has := by
    intro p q h
    obtain ⟨middle, hmiddle, h⟩ := bind_eq_ok.mp h
    rw [hnext.has h, hstep.has hmiddle, Bool.or_assoc]
  ahead := by
    intro p q h hoff
    obtain ⟨middle, hmiddle, h⟩ := bind_eq_ok.mp h
    have hmiddleOff : middle.taken.has s = false := by
      have hhas := hnext.has h
      rw [hoff] at hhas
      simpa using (Bool.or_eq_false_iff.mp hhas.symm).1
    exact bind_eq_ok.mpr ⟨_, hstep.ahead hmiddle hmiddleOff, hnext.ahead h hoff⟩

theorem takeShort_heeds (hlong : LongSwitch s name) (cs : List Char) :
    Heeds s false (takeShort generateNames · cs) := by
  induction cs with
  | nil => exact Heeds.done
  | cons c rest ih =>
      cases hlookup : generateNames.short.lookup c with
      | none =>
          simp only [takeShort, hlookup]
          exact Heeds.fail _
      | some kind =>
          cases kind with
          | switch k =>
              have hne : k ≠ s := by
                rintro rfl
                exact hlong.noShort _ (mem_of_lookup hlookup) rfl
              have hswitch := switch_heeds s k
              rw [decide_eq_false hne] at hswitch
              simp only [takeShort, hlookup]
              exact hswitch.andThen ih
          | valued v =>
              have hvalue : ∃ attached, ∀ p,
                  takeShort generateNames p (c :: rest) = p.valued v attached := by
                simp only [takeShort, hlookup]
                split
                · exact ⟨_, fun _ => rfl⟩
                · exact ⟨_, fun _ => rfl⟩
                · exact ⟨_, fun _ => rfl⟩
              obtain ⟨attached, hvalue⟩ := hvalue
              simp only [hvalue]
              exact valued_heeds s v attached

/-- A long option without an attached value is its name. -/
theorem splitLong_none {cs : List Char} {n : String} (h : splitLong cs = (n, none)) :
    cs = n.toList := by
  unfold splitLong at h
  dsimp only at h
  split at h
  next hdrop =>
    cases h
    have hlength := List.drop_eq_nil_iff.mp hdrop
    rw [String.toList_ofList]
    exact ((List.takeWhile_prefix _).eq_of_length_le hlength).symm
  · cases h

theorem splitLong_name (hlong : LongSwitch s name) :
    splitLong name.toList = (name, none) := by
  have htake : name.toList.takeWhile (· ≠ '=') = name.toList := by
    rw [List.takeWhile_eq_self_iff]
    intro c hc
    have hne : c ≠ '=' := fun heq => hlong.unassigned (heq ▸ hc)
    simpa using hne
  simp only [splitLong, htake, List.drop_length, String.ofList_toList]

theorem takeLong_heeds (hlong : LongSwitch s name) (cs : List Char) :
    Heeds s (decide (cs = name.toList)) (takeLong generateNames · cs) := by
  by_cases hcs : cs = name.toList
  · have hswitch := switch_heeds s s
    subst hcs
    simp only [takeLong, splitLong_name hlong, hlong.long, decide_true] at hswitch ⊢
    exact hswitch
  rw [decide_eq_false hcs]
  obtain ⟨⟨n, value⟩, hsplit⟩ : ∃ parts, splitLong cs = parts := ⟨_, rfl⟩
  cases hlookup : generateNames.long.lookup n with
  | none =>
      simp only [takeLong, hsplit, hlookup]
      exact Heeds.fail _
  | some kind =>
      cases kind with
      | valued v =>
          simp only [takeLong, hsplit, hlookup]
          exact valued_heeds s v value
      | switch k =>
          cases value with
          | some value =>
              simp only [takeLong, hsplit, hlookup]
              exact Heeds.fail _
          | none =>
              have hne : k ≠ s := by
                rintro rfl
                have hname := hlong.only _ (mem_of_lookup hlookup) rfl
                exact hcs (by rw [splitLong_none hsplit, ← hname])
              have hswitch := switch_heeds s k
              rw [decide_eq_false hne] at hswitch
              simp only [takeLong, hsplit, hlookup]
              exact hswitch

end Steps

/-! ## Runs -/

section Runs

variable {s : Switch} {name : String} {p : Progress} {a : Arguments}

theorem eq_longOption_iff {argument : String} :
    argument = longOption name ↔ argument.toList = '-' :: '-' :: name.toList := by
  rw [longOption, ← String.toList_inj, String.toList_ofList]

theorem finish_has (h : p.finish = .ok a) : a.has s = p.taken.has s := by
  obtain ⟨taken, htaken, h⟩ := bind_eq_ok.mp h
  split at h
  · cases h
  · cases h
    exact resolve_has htaken

theorem finish_turnOn (h : p.finish = .ok a) (hfree : (a.switchOn s).hasConflict = false) :
    (p.turnOn s).finish = .ok (a.switchOn s) := by
  obtain ⟨taken, htaken, h⟩ := bind_eq_ok.mp h
  split at h
  · cases h
  · cases h
    refine bind_eq_ok.mpr ⟨_, resolve_turnOn htaken, ?_⟩
    rw [hfree]
    rfl

theorem giveValue_heeds (s : Switch) (value : String) :
    Heeds s false fun p =>
      if p.waits then .ok (p.giveValue value) else .error .unknownArgument where
  has := by
    intro p q h
    split at h
    · cases h
      simp [Progress.giveValue]
    · cases h
  ahead := by
    intro p q h _
    have hwaits : (p.turnOn s).waits = p.waits := rfl
    rw [hwaits]
    split at h
    next hwaiting =>
      cases h
      rw [if_pos hwaiting]
      rfl
    · cases h

/-- An argument that is no option can only be the value of one. -/
theorem readGenerate_value {argument : String} (rest : List String)
    (hvalue : argument.toList.head? ≠ some '-' ∨ argument.toList = ['-']) :
    readGenerate p (argument :: rest) =
      (if p.waits then .ok (p.giveValue argument) else .error .unknownArgument) >>=
        fun q => readGenerate q rest := by
  have hread : readGenerate p (argument :: rest) =
      if p.waits then readGenerate (p.giveValue argument) rest else .error .unknownArgument := by
    cases hchars : argument.toList with
    | nil => simp [readGenerate, hchars]
    | cons c cs =>
        rw [hchars] at hvalue
        rcases hvalue with hne | heq
        · simp [readGenerate, hchars, show c ≠ '-' by simpa using hne]
        · simp [readGenerate, hchars, heq]
  rw [hread]
  split <;> rfl

/-- An argument ends the arguments, or is one step of their reading. -/
theorem argument_step (hlong : LongSwitch s name) (argument : String) :
    (argument ≠ longOption name ∧ ∀ p rest, readGenerate p (argument :: rest) =
      if rest.isEmpty then p.finish else .error .unknownArgument) ∨
    ∃ step, Heeds s (decide (argument = longOption name)) step ∧
      ∀ p rest, readGenerate p (argument :: rest) = step p >>= fun q => readGenerate q rest := by
  simp only [Ne, eq_longOption_iff]
  by_cases hvalue : argument.toList.head? ≠ some '-' ∨ argument.toList = ['-']
  · have hne : argument.toList ≠ '-' :: '-' :: name.toList := by
      rintro heq
      rw [heq] at hvalue
      simp at hvalue
    rw [decide_eq_false hne]
    exact Or.inr ⟨_, giveValue_heeds s argument, fun p rest => readGenerate_value rest hvalue⟩
  obtain ⟨hhead, hlonger⟩ := not_or.mp hvalue
  obtain ⟨cs, hchars⟩ := List.head?_eq_some_iff.mp (not_not.mp hhead)
  rw [hchars] at hlonger ⊢
  cases cs with
  | nil => exact absurd rfl hlonger
  | cons c rest =>
      by_cases hdash : c = '-'
      · subst hdash
        cases rest with
        | nil =>
            refine Or.inl ⟨fun heq => ?_, fun p rest => by simp [readGenerate, hchars]⟩
            exact hlong.nonempty (List.cons.inj (List.cons.inj heq).2).2.symm
        | cons d rest =>
            refine Or.inr ⟨(takeLong generateNames · (d :: rest)), ?_, fun p others => ?_⟩
            · simpa using takeLong_heeds hlong (d :: rest)
            · simp [readGenerate, hchars]
      · refine Or.inr ⟨(takeShort generateNames · (c :: rest)), ?_, fun p others => ?_⟩
        · simpa [hdash] using takeShort_heeds hlong (c :: rest)
        · simp [readGenerate, hchars, hdash]

/-- After arguments that are read, the switch is on exactly if it was before or its option is among
them. If it is off, it could have been on from the start, unless that excludes another option. -/
structure ReadsHeeding (s : Switch) (given : Bool) (p : Progress) (arguments : List String)
    (a : Arguments) : Prop where
  has : a.has s = (p.taken.has s || given)
  ahead : a.has s = false → (a.switchOn s).hasConflict = false →
    readGenerate (p.turnOn s) arguments = .ok (a.switchOn s)

theorem readGenerate_heeds (hlong : LongSwitch s name) {arguments : List String}
    (h : readGenerate p arguments = .ok a) :
    ReadsHeeding s (decide (longOption name ∈ arguments)) p arguments a := by
  induction arguments generalizing p with
  | nil => exact ⟨by simpa using finish_has h, fun _ hfree => finish_turnOn h hfree⟩
  | cons argument rest ih =>
      rcases argument_step hlong argument with ⟨hne, hread⟩ | ⟨step, hstep, hread⟩
      · rw [hread] at h
        split at h
        next hempty =>
          obtain rfl := List.isEmpty_iff.mp hempty
          refine ⟨?_, fun _ hfree => ?_⟩
          · simpa [hne.symm] using finish_has h
          · rw [hread]
            exact finish_turnOn h hfree
        · cases h
      · rw [hread] at h
        obtain ⟨q, hq, h⟩ := bind_eq_ok.mp h
        obtain ⟨hhas, hahead⟩ := ih h
        refine ⟨?_, fun hoff hfree => ?_⟩
        · simp [hhas, hstep.has hq, Bool.or_assoc, List.mem_cons, eq_comm (a := argument)]
        · rw [hoff] at hhas
          have hqOff := (Bool.or_eq_false_iff.mp hhas.symm).1
          rw [hread, hstep.ahead hq hqOff]
          exact hahead hoff hfree

/-! ## Whole command lines -/

/-- Arguments with one more option for the subcommand. -/
def withOption (option : String) : List String → List String
  | [] => []
  | argument :: rest =>
    if argument = "generate" then argument :: option :: rest
    else argument :: withOption option rest

theorem LongSwitch.not_help (hlong : LongSwitch s name) : s ≠ .help := by
  rintro rfl
  exact hlong.noShort ('h', .switch .help) (by decide) rfl

theorem LongSwitch.not_version (hlong : LongSwitch s name) : s ≠ .version := by
  rintro rfl
  have hentry := mem_of_lookup hlong.long
  simp [generateNames] at hentry

theorem readGenerate_option (hlong : LongSwitch s name) (rest : List String) :
    readGenerate {} (longOption name :: rest) =
      readGenerate (Progress.turnOn {} s) rest := by
  have htake : takeLong generateNames {} name.toList = .ok (Progress.turnOn {} s) := by
    have hnew : ({} : Arguments).has s = false := by cases s <;> rfl
    simp [takeLong, splitLong_name hlong, hlong.long, Progress.switch, Progress.resolve,
      Arguments.takeSwitch, hlong.not_help, hlong.not_version, hnew, Progress.turnOn, bind,
      Except.bind, pure, Except.pure]
  have hchars : (longOption name).toList = '-' :: '-' :: name.toList :=
    eq_longOption_iff.mp rfl
  cases hname : name.toList with
  | nil => exact absurd hname hlong.nonempty
  | cons c cs =>
      rw [hname] at htake hchars
      simp [readGenerate, hchars, htake, bind, Except.bind]

/-- An argument before the subcommand is a fault, or one step of the reading. The options of the
subcommand are faults there. -/
theorem outer_step (hlong : LongSwitch s name) {argument : String}
    (hother : argument ≠ "generate") :
    (∀ p rest, ∃ error, readOuter p (argument :: rest) = .error error) ∨
      argument ≠ longOption name ∧ ∃ step : Progress → Except UsageError Progress,
        ∀ p rest, readOuter p (argument :: rest) = step p >>= fun q => readOuter q rest := by
  by_cases hhelp : argument = "help"
  · exact Or.inl fun p rest => ⟨readHelp rest, by simp [readOuter, hhelp]⟩
  rw [Ne, eq_longOption_iff]
  cases hchars : argument.toList with
  | nil =>
      exact Or.inl fun p rest =>
        ⟨.invalidSubcommand, by simp [readOuter, hother, hhelp, hchars]⟩
  | cons c cs =>
      by_cases hdash : c = '-'
      case neg =>
        exact Or.inl fun p rest =>
          ⟨.invalidSubcommand, by simp [readOuter, hother, hhelp, hchars, hdash]⟩
      subst hdash
      cases cs with
      | nil =>
          exact Or.inl fun p rest =>
            ⟨.invalidSubcommand, by simp [readOuter, hother, hhelp, hchars]⟩
      | cons d cs =>
          by_cases hdash : d = '-'
          case neg =>
            refine Or.inr ⟨by simp [hdash], (takeShort outerNames · (d :: cs)), fun p rest => ?_⟩
            simp [readOuter, hother, hhelp, hchars, hdash]
          subst hdash
          cases cs with
          | nil =>
              refine Or.inl fun p rest => ?_
              cases rest <;> simp [readOuter, hother, hhelp, hchars]
          | cons e cs =>
              by_cases hname : e :: cs = name.toList
              · have htake : ∀ p, takeLong outerNames p (e :: cs) = .error .unknownArgument := by
                  intro p
                  simp [takeLong, hname, splitLong_name hlong, hlong.notOuter]
                exact Or.inl fun p rest => ⟨.unknownArgument, by
                  simp [readOuter, hother, hhelp, hchars, htake, bind, Except.bind]⟩
              · refine Or.inr ⟨by simpa using hname, (takeLong outerNames · (e :: cs)),
                  fun p rest => ?_⟩
                simp [readOuter, hother, hhelp, hchars]

theorem readOuter_heeds (hlong : LongSwitch s name) {arguments : List String}
    (h : readOuter p arguments = .ok a) :
    a.has s = decide (longOption name ∈ arguments) ∧
      (a.has s = false → (a.switchOn s).hasConflict = false →
        readOuter p (withOption (longOption name) arguments) = .ok (a.switchOn s)) := by
  induction arguments generalizing p with
  | nil => cases h
  | cons argument rest ih =>
      by_cases hgenerate : argument = "generate"
      · subst hgenerate
        obtain ⟨taken, htaken, rfl⟩ := map_eq_ok.mp h
        obtain ⟨hhas, hahead⟩ := readGenerate_heeds hlong htaken
        have hnew : ({} : Progress).taken.has s = false := by cases s <;> rfl
        have hname : longOption name ≠ "generate" := by
          rw [Ne, eq_comm, eq_longOption_iff]
          simp
        have hverbose : ∀ v, ({ taken with verbose := v } : Arguments).has s = taken.has s := by
          intro v
          cases s <;> first | rfl | exact absurd rfl hlong.notVerbose
        refine ⟨by simp [hverbose, hhas, hnew, hname], fun hoff hfree => ?_⟩
        rw [hverbose] at hoff
        have hread := hahead hoff (by cases s <;> exact hfree)
        change (readGenerate {} (longOption name :: rest)).map _ = _
        rw [readGenerate_option hlong, hread]
        cases s <;> first | rfl | exact absurd rfl hlong.notVerbose
      rcases outer_step hlong hgenerate with herror | ⟨hne, step, hread⟩
      · obtain ⟨error, herror⟩ := herror p rest
        rw [herror] at h
        cases h
      · rw [hread] at h
        obtain ⟨q, hq, h⟩ := bind_eq_ok.mp h
        obtain ⟨hhas, hahead⟩ := ih h
        refine ⟨by simp [hhas, hne.symm], fun hoff hfree => ?_⟩
        rw [withOption, if_neg hgenerate, hread, hq]
        exact hahead hoff hfree

/-! ## Conflicts -/

theorem finish_conflictFree (h : p.finish = .ok a) : a.hasConflict = false := by
  obtain ⟨taken, _, h⟩ := bind_eq_ok.mp h
  split at h
  · cases h
  next hfree =>
    cases h
    simpa using hfree

theorem readGenerate_conflictFree {arguments : List String}
    (h : readGenerate p arguments = .ok a) : a.hasConflict = false := by
  induction arguments generalizing p with
  | nil => exact finish_conflictFree h
  | cons argument rest ih =>
      rcases argument_step check_longSwitch argument with ⟨_, hread⟩ | ⟨_, _, hread⟩
      · rw [hread] at h
        split at h
        · exact finish_conflictFree h
        · cases h
      · rw [hread] at h
        obtain ⟨_, _, h⟩ := bind_eq_ok.mp h
        exact ih h

/-- No options that exclude each other are read. -/
theorem readOuter_conflictFree {arguments : List String}
    (h : readOuter p arguments = .ok a) : a.hasConflict = false := by
  induction arguments generalizing p with
  | nil => cases h
  | cons argument rest ih =>
      by_cases hgenerate : argument = "generate"
      · subst hgenerate
        obtain ⟨taken, htaken, rfl⟩ := map_eq_ok.mp h
        have hfree : taken.hasConflict = false := readGenerate_conflictFree htaken
        exact hfree
      rcases outer_step check_longSwitch hgenerate with herror | ⟨_, _, hread⟩
      · obtain ⟨_, herror⟩ := herror p rest
        rw [herror] at h
        cases h
      · rw [hread] at h
        obtain ⟨_, _, h⟩ := bind_eq_ok.mp h
        exact ih h

end Runs

end Typings.Settings
