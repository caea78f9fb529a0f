import ApiTypes.CommandLine.Options

/-!
# Options that are given

What is taken from accepted arguments is told by the options that they give, each
with its argument.  The selection depends on the set of these only: on whether
empty types are to be skipped, and on the names that are to be skipped.
-/

namespace ApiTypes.CommandLine

/-- The options that are given by one of them and what is attached to it. -/
def givenAttached (flag : Flag) (attached : Text) : List (Flag × Text) :=
  if flag.takesArgument then [(flag, attached)]
  else
    match cluster flag attached with
    | .ok flags => flags.map fun flag => (flag, [])
    | .error _ => []

/-- The options that sorted arguments give.  An option that takes no argument counts as one whose
argument is empty. -/
def given : List Argument → List (Flag × Text)
  | [] => []
  | .option flag _ (some attached) :: arguments => givenAttached flag attached ++ given arguments
  | .option flag _ none :: arguments =>
      if flag.takesArgument then
        match arguments with
        | .plain argument :: arguments => (flag, argument) :: given arguments
        | _ => []
      else (flag, []) :: given arguments
  | _ :: arguments => given arguments

/-- The arguments of a command line give an option with an argument, however they spell it. -/
def Gives (arguments : List Text) (flag : Flag) (argument : Text) : Prop :=
  ∃ sorted, sortAll arguments = .ok sorted ∧ (flag, argument) ∈ given sorted

namespace Taken

/-- What taking options adds to the selection. -/
structure Adds (taken next : Taken) (options : List (Flag × Text)) : Prop where
  skipsEmpty : next.skipsEmpty = true ↔
    taken.skipsEmpty = true ∨ ∃ argument, (Flag.skipEmpty, argument) ∈ options
  excluded (name : Text) : name ∈ next.excluded ↔
    name ∈ taken.excluded ∨ (Flag.skipName, name) ∈ options

theorem Adds.nil (taken : Taken) : taken.Adds taken [] :=
  ⟨by simp, by simp⟩

theorem Adds.append {taken next last : Taken} {options others : List (Flag × Text)}
    (first : taken.Adds next options) (second : next.Adds last others) :
    taken.Adds last (options ++ others) := by
  constructor
  · rw [second.skipsEmpty, first.skipsEmpty]
    simp only [List.mem_append, exists_or, or_assoc]
  · intro name
    rw [second.excluded, first.excluded, List.mem_append, or_assoc]

theorem Adds.cons {taken next last : Taken} {option : Flag × Text} {others : List (Flag × Text)}
    (first : taken.Adds next [option]) (second : next.Adds last others) :
    taken.Adds last (option :: others) :=
  first.append second

theorem adds_leave (taken : Taken) (argument : Text) : taken.Adds (taken.leave argument) [] :=
  ⟨by simp [leave], by simp [leave]⟩

theorem adds_take {taken next : Taken} {flag : Flag} {argument : Text}
    (success : taken.take flag argument = .ok next) : taken.Adds next [(flag, argument)] := by
  unfold take at success
  split at success
  · simp at success
  · cases flag with
    | help => simp at success
    | _ =>
        obtain rfl := Except.ok.inj success
        exact ⟨by simp, by simp⟩

theorem adds_takeAll {taken next : Taken} {flags : List Flag}
    (success : taken.takeAll flags = .ok next) :
    taken.Adds next (flags.map fun flag => (flag, [])) := by
  induction flags generalizing taken with
  | nil =>
      obtain rfl : taken = next := by simpa [takeAll] using success
      exact Adds.nil taken
  | cons flag flags induction =>
      unfold takeAll at success
      cases taking : taken.take flag [] with
      | error refusal => simp [taking, bind, Except.bind] at success
      | ok middle =>
          rw [taking] at success
          exact (adds_take taking).cons (induction success)

theorem adds_takeAttached {taken next : Taken} {flag : Flag} {short : Bool} {attached : Text}
    (success : taken.takeAttached flag short attached = .ok next) :
    taken.Adds next (givenAttached flag attached) := by
  unfold takeAttached at success
  unfold givenAttached
  split at success
  next takes =>
    rw [if_pos takes]
    exact adds_take success
  next takes =>
    rw [if_neg takes]
    split at success
    · cases together : cluster flag attached with
      | ok flags =>
          rw [together] at success
          exact adds_takeAll success
      | error fault => simp [together] at success
    · simp at success

/-- The options that are given are taken one after another. -/
theorem adds_takeArguments {taken result : Taken} {arguments : List Argument}
    (success : taken.takeArguments arguments = .ok result) :
    taken.Adds result (given arguments) := by
  induction taken, arguments using takeArguments.induct with
  | case1 taken =>
      obtain rfl : taken = result := by simpa [takeArguments] using success
      exact Adds.nil taken
  | case2 taken content arguments induction =>
      rw [takeArguments] at success
      exact (taken.adds_leave content).append (induction success)
  | case3 taken arguments induction =>
      rw [takeArguments] at success
      exact (taken.adds_leave "--").append (induction success)
  | case4 taken content arguments induction =>
      rw [takeArguments] at success
      exact (taken.adds_leave content).append (induction success)
  | case5 taken flag short attached arguments induction =>
      rw [takeArguments] at success
      cases taking : taken.takeAttached flag short attached with
      | error refusal => simp [taking, bind, Except.bind] at success
      | ok next =>
          rw [taking] at success
          exact (adds_takeAttached taking).append (induction next success)
  | case6 taken flag short takes argument arguments induction =>
      rw [takeArguments, if_pos takes] at success
      rw [given, if_pos takes]
      cases taking : taken.take flag argument with
      | error refusal => simp [taking, bind, Except.bind] at success
      | ok next =>
          simp only [taking, bind, Except.bind] at success
          exact (adds_take taking).cons (induction next success)
  | case7 taken flag short arguments takes notPlain =>
      rw [takeArguments, if_pos takes] at success
      · simp at success
      · exact notPlain
  | case8 taken flag short arguments takes induction =>
      rw [takeArguments.eq_def] at success
      rw [given.eq_def]
      dsimp only at success ⊢
      rw [if_neg takes] at success ⊢
      cases taking : taken.take flag [] with
      | error refusal => simp [taking, bind, Except.bind] at success
      | ok next =>
          simp only [taking, bind, Except.bind] at success
          exact (adds_take taking).cons (induction next success)

end Taken

/-- The selection of accepted arguments: empty types are skipped if that option is given, and the
excluded names are those that are given. -/
theorem selection_of_parse_eq_ok {arguments : List Text} {options : Options}
    (accepted : parse arguments = .ok options) :
    (options.selection.skipsEmpty = true ↔ ∃ argument, Gives arguments .skipEmpty argument) ∧
      ∀ name, name ∈ options.selection.excluded ↔ Gives arguments .skipName name := by
  unfold parse at accepted
  cases sorting : sortAll arguments with
  | error fault => simp [sorting, bind, Except.bind] at accepted
  | ok sorted =>
      cases taking : Taken.takeArguments {} sorted with
      | error refusal => simp [sorting, taking, bind, Except.bind, pure, Except.pure] at accepted
      | ok taken =>
          simp only [sorting, taking, bind, Except.bind, pure, Except.pure] at accepted
          split at accepted
          · simp at accepted
          · split at accepted
            · simp at accepted
            · obtain rfl := Except.ok.inj accepted
              have adds := Taken.adds_takeArguments taking
              constructor
              · simpa [Gives, sorting] using adds.skipsEmpty
              · intro name
                simpa [Gives, sorting] using adds.excluded name

end ApiTypes.CommandLine
