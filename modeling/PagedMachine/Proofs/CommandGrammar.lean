import Mathlib.Data.List.Forall2
import PagedMachine.Shell.Command
import PagedMachine.Proofs.Tokens

/-!
# The grammar of command lines

The first token of a line is a command word, and `grammar` lists the sixteen words with the
arguments each takes, in order: an unsigned 64-bit number, a signed 32-bit value or a program
name, each with the phrase that names it when it is missing. Tokens past those arguments are
not read. `firstFault` scans the arguments in the order of the signature and gives the error of
the first that is missing or does not read; `Command.Spells c w args` says that the word `w`
with the arguments `args` stands for the command `c`; and `Command.render` writes a command as
its word and its arguments in decimal.

The parser's branches come in three shapes, with no argument, one or two, and `ReadsAs` says
what a branch of each shape reads. `parse_reads` finds the shape of the branch of every word;
the lemmas about `ReadsAs` then hold for all words at once.

Main statement: `parse_follows_grammar`.
-/

namespace PagedMachine

namespace Shell

open Text

/-! ## Arguments -/

/-- The kinds of argument a command takes. -/
inductive ArgKind where
  /-- A program name: any token. -/
  | name
  /-- A pid or an address: an unsigned 64-bit numeral. -/
  | unsigned
  /-- A value for a process waiting on the console: a signed 32-bit numeral. -/
  | value
  deriving DecidableEq, Repr

/-- The unsigned 64-bit number a token spells. -/
def unsignedValue? (t : String) : Option Nat := parseNatBelow? unsignedBound t

/-- The signed 32-bit number a token spells. -/
def inputValue? (t : String) : Option Int32 :=
  (parseIntWithin? (-2147483648) 2147483647 t).map Int32.ofInt

/-- Whether a token can stand as an argument of the kind. -/
def ArgKind.accepts : ArgKind → String → Bool
  | .name, _ => true
  | .unsigned, t => (unsignedValue? t).isSome
  | .value, t => (inputValue? t).isSome

/-- The command words, each with the arguments it takes in order: their kind, and the phrase
that names one that is missing. -/
def grammar : List (String × List (ArgKind × String)) :=
  [("new", [(.name, "a program name")]),
   ("rm", [(.unsigned, "a pid")]),
   ("ps", []),
   ("dump", [(.unsigned, "a pid")]),
   ("dumpm", [(.unsigned, "a start address"), (.unsigned, "an end address")]),
   ("frames", []),
   ("disk", []),
   ("exec", [(.unsigned, "a pid")]),
   ("execall", []),
   ("in", [(.unsigned, "a pid"), (.value, "a value")]),
   ("traceon", []),
   ("traceoff", []),
   ("audit", []),
   ("help", []),
   ("exit", []),
   ("quit", [])]

/-- The error of the first argument of the command word `w` that is missing or not accepted,
reading the arguments its signature asks for in order; tokens past them are not read. -/
def firstFault (w : String) : List (ArgKind × String) → List String → Option ShellError
  | [], _ => none
  | (_, what) :: _, [] => some (.missingArgument w what)
  | (k, _) :: sig, t :: ts => if k.accepts t then firstFault w sig ts else some (.invalidNumber t)

/-- No argument is at fault exactly when the arguments the signature asks for are all there and
each is accepted. -/
theorem firstFault_eq_none_iff (w : String) (sig : List (ArgKind × String)) (args : List String) :
    firstFault w sig args = none ↔
      List.Forall₂ (fun a t => a.1.accepts t = true) sig (args.take sig.length) := by
  induction sig generalizing args with
  | nil => simp [firstFault]
  | cons a sig ih =>
    obtain ⟨k, what⟩ := a
    cases args with
    | nil => simp [firstFault]
    | cons t ts =>
      by_cases ok : k.accepts t <;> simp [firstFault, ok, ih]

/-- The word `w` followed by the arguments `args` stands for the command. -/
def Command.Spells : Command → String → List String → Prop
  | .new program, w, args => w = "new" ∧ args = [program]
  | .rm pid, w, args => w = "rm" ∧ ∃ a, args = [a] ∧ unsignedValue? a = some pid
  | .ps, w, args => w = "ps" ∧ args = []
  | .dump pid, w, args => w = "dump" ∧ ∃ a, args = [a] ∧ unsignedValue? a = some pid
  | .dumpMemory start stop, w, args => w = "dumpm" ∧
      ∃ a b, args = [a, b] ∧ unsignedValue? a = some start ∧ unsignedValue? b = some stop
  | .frames, w, args => w = "frames" ∧ args = []
  | .disk, w, args => w = "disk" ∧ args = []
  | .exec pid, w, args => w = "exec" ∧ ∃ a, args = [a] ∧ unsignedValue? a = some pid
  | .execAll, w, args => w = "execall" ∧ args = []
  | .input pid value, w, args => w = "in" ∧
      ∃ a b, args = [a, b] ∧ unsignedValue? a = some pid ∧ inputValue? b = some value
  | .traceOn, w, args => w = "traceon" ∧ args = []
  | .traceOff, w, args => w = "traceoff" ∧ args = []
  | .audit, w, args => w = "audit" ∧ args = []
  | .help, w, args => w = "help" ∧ args = []
  | .exit, w, args => (w = "exit" ∨ w = "quit") ∧ args = []

/-! ## Reading arguments -/

/-- Reads argument `i` of the command word `w` with `read?`: a missing one is named by `what`,
one that does not read is an invalid number. -/
def readWith {α : Type} (read? : String → Option α) (args : List String) (i : Nat)
    (w what : String) : Except ShellError α :=
  match args[i]? with
  | none => .error (.missingArgument w what)
  | some a =>
    match read? a with
    | some v => .ok v
    | none => .error (.invalidNumber a)

section Readers

variable {α : Type} {args : List String} {i : Nat} {w what : String}

/-- A plain argument is read by taking the word as it is. -/
theorem argument_eq_readWith : argument args i w what = readWith some args i w what := by
  unfold argument readWith
  cases args[i]? <;> rfl

/-- An unsigned argument is read as an unsigned 64-bit number. -/
theorem unsignedArg_eq_readWith :
    unsignedArg args i w what = readWith unsignedValue? args i w what := by
  simp only [unsignedArg, argument, readWith, unsignedValue?, bind, Except.bind]
  cases args[i]? with
  | none => rfl
  | some a =>
    dsimp only
    cases parseNatBelow? unsignedBound a <;> rfl

/-- A value argument is read as a signed 32-bit number. -/
theorem valueArg_eq_readWith : valueArg args i w what = readWith inputValue? args i w what := by
  simp only [valueArg, argument, readWith, inputValue?, bind, Except.bind]
  cases args[i]? with
  | none => rfl
  | some a =>
    dsimp only
    cases parseIntWithin? (-2147483648) 2147483647 a <;> rfl

/-- An argument past the last is missing. -/
@[simp] theorem readWith_nil (read? : String → Option α) :
    readWith read? [] i w what = .error (.missingArgument w what) := rfl

/-- The first argument is read, or named as an invalid number. -/
theorem readWith_cons_zero (read? : String → Option α) (a : String) (rest : List String) :
    readWith read? (a :: rest) 0 w what =
      match read? a with
      | some v => .ok v
      | none => .error (.invalidNumber a) := rfl

/-- Argument `i + 1` is argument `i` of the rest. -/
@[simp] theorem readWith_cons_succ (read? : String → Option α) (a : String)
    (rest : List String) :
    readWith read? (a :: rest) (i + 1) w what = readWith read? rest i w what := rfl

end Readers

/-- How the parser reads the arguments `args` after the word `w` with signature `sig`: it
reads them in order, each with a reader that accepts exactly the tokens of its kind, and builds
a command that the word and the tokens read spell. -/
inductive ReadsAs (w : String) (args : List String) :
    List (ArgKind × String) → Except ShellError Command → Prop
  | zero (c : Command) (spells : c.Spells w []) : ReadsAs w args [] (pure c)
  | one {α : Type} (k : ArgKind) (what : String) (r : String → Option α) (f : α → Command)
      (reads : ∀ t, k.accepts t = (r t).isSome)
      (spells : ∀ a v, r a = some v → (f v).Spells w [a]) :
      ReadsAs w args [(k, what)] (readWith r args 0 w what >>= fun v => pure (f v))
  | two {α β : Type} (k l : ArgKind) (what what' : String) (r : String → Option α)
      (q : String → Option β) (f : α → β → Command) (reads : ∀ t, k.accepts t = (r t).isSome)
      (reads' : ∀ t, l.accepts t = (q t).isSome)
      (spells : ∀ a b v u, r a = some v → q b = some u → (f v u).Spells w [a, b]) :
      ReadsAs w args [(k, what), (l, what')]
        (readWith r args 0 w what >>= fun v => readWith q args 1 w what' >>= fun u => pure (f v u))

/-- A command word the grammar knows is listed in it with its signature. -/
theorem mem_grammar {w : String} {sig : List (ArgKind × String)}
    (known : grammar.lookup w = some sig) : (w, sig) ∈ grammar := by
  obtain ⟨l₁, l₂, split, -⟩ := List.lookup_eq_some_iff.1 known
  rw [split]
  simp

/-- After each command word, the parser reads the arguments of its signature. -/
theorem parse_reads {line w : String} {args : List String} {sig : List (ArgKind × String)}
    (h : words line = w :: args) (known : grammar.lookup w = some sig) :
    ReadsAs w args sig (Command.parse line) := by
  have mem := mem_grammar known
  simp only [grammar, List.mem_cons, Prod.mk.injEq, List.not_mem_nil, or_false] at mem
  rcases mem with ⟨rfl, rfl⟩ | ⟨rfl, rfl⟩ | ⟨rfl, rfl⟩ | ⟨rfl, rfl⟩ | ⟨rfl, rfl⟩ | ⟨rfl, rfl⟩ |
    ⟨rfl, rfl⟩ | ⟨rfl, rfl⟩ | ⟨rfl, rfl⟩ | ⟨rfl, rfl⟩ | ⟨rfl, rfl⟩ | ⟨rfl, rfl⟩ | ⟨rfl, rfl⟩ |
    ⟨rfl, rfl⟩ | ⟨rfl, rfl⟩ | ⟨rfl, rfl⟩ <;>
  simp only [Command.parse, h, argument_eq_readWith, unsignedArg_eq_readWith, valueArg_eq_readWith]
  -- the branch of each word has the shape of its signature: `constructor` finds it
  all_goals constructor <;> intros <;> simp_all [Command.Spells, ArgKind.accepts]

/-- Reading the first argument and going on with its value. -/
theorem readWith_cons_bind {α γ : Type} {w what : String} (r : String → Option α) (a : String)
    (rest : List String) (g : α → Except ShellError γ) :
    (readWith r (a :: rest) 0 w what >>= g) =
      match r a with
      | some v => g v
      | none => .error (.invalidNumber a) := by
  rw [readWith_cons_zero]
  cases r a <;> rfl

namespace ReadsAs

variable {w : String} {args : List String} {sig : List (ArgKind × String)}
  {result : Except ShellError Command}

/-- A branch fails exactly with the first fault of its arguments. -/
theorem error_iff (reads : ReadsAs w args sig result) (e : ShellError) :
    result = .error e ↔ firstFault w sig args = some e := by
  cases reads with
  | zero c spells => simp [firstFault, pure, Except.pure]
  | one k what r f accepts spells =>
    cases args with
    | nil => simp [firstFault, bind, Except.bind, eq_comm]
    | cons a rest =>
      rw [readWith_cons_bind]
      cases read : r a <;> simp [firstFault, accepts, read, pure, Except.pure, eq_comm]
  | two k l what what' r q f accepts accepts' spells =>
    cases args with
    | nil => simp [firstFault, bind, Except.bind, eq_comm]
    | cons a rest =>
      rw [readWith_cons_bind]
      cases read : r a with
      | none => simp [firstFault, accepts, read, eq_comm]
      | some v =>
        simp only [readWith_cons_succ]
        cases rest with
        | nil => simp [firstFault, accepts, read, bind, Except.bind, eq_comm]
        | cons b rest =>
          rw [readWith_cons_bind]
          cases read' : q b <;>
            simp [firstFault, accepts, accepts', read, read', pure, Except.pure, eq_comm]

/-- A command a branch builds is spelled by the word and the arguments it read; the tokens after
them are not read. -/
theorem spells_of_ok (reads : ReadsAs w args sig result) {c : Command} (ok : result = .ok c) :
    ∃ used extra, args = used ++ extra ∧ c.Spells w used := by
  cases reads with
  | zero c' spells =>
    cases ok
    exact ⟨[], args, rfl, spells⟩
  | one k what r f accepts spells =>
    cases args with
    | nil => cases ok
    | cons a rest =>
      rw [readWith_cons_bind] at ok
      cases read : r a with
      | none => simp [read] at ok
      | some v =>
        simp only [read, pure, Except.pure, Except.ok.injEq] at ok
        exact ⟨[a], rest, rfl, ok ▸ spells a v read⟩
  | two k l what what' r q f accepts accepts' spells =>
    cases args with
    | nil => cases ok
    | cons a rest =>
      rw [readWith_cons_bind] at ok
      cases read : r a with
      | none => simp [read] at ok
      | some v =>
        simp only [read, readWith_cons_succ] at ok
        cases rest with
        | nil => cases ok
        | cons b rest =>
          rw [readWith_cons_bind] at ok
          cases read' : q b with
          | none => simp [read'] at ok
          | some u =>
            simp only [read', pure, Except.pure, Except.ok.injEq] at ok
            exact ⟨[a, b], rest, rfl, ok ▸ spells a b v u read read'⟩

/-- A branch builds a command exactly when no argument is at fault. -/
theorem ok_iff (reads : ReadsAs w args sig result) :
    (∃ c, result = .ok c) ↔ firstFault w sig args = none := by
  cases result with
  | error e => simp [(reads.error_iff e).1 rfl]
  | ok c =>
    cases fault : firstFault w sig args with
    | none => simp
    | some e => simpa using (reads.error_iff e).2 fault

end ReadsAs

/-- A word outside the grammar is an unknown command. -/
theorem parse_unknown {line w : String} {args : List String} (h : words line = w :: args)
    (unknown : grammar.lookup w = none) : Command.parse line = .error (.unknownCommand w) := by
  simp only [Command.parse, h]
  split <;> simp_all [grammar]

/-- A blank line is an unknown command with an empty word. -/
theorem parse_blank {line : String} (h : words line = []) :
    Command.parse line = .error (.unknownCommand "") := by
  simp [Command.parse, h]

/-- A word with arguments that spell a command, followed by any tokens, reads as the command. -/
theorem parse_of_spells {line w : String} {used extra : List String} {c : Command}
    (spells : c.Spells w used) (h : words line = w :: (used ++ extra)) :
    Command.parse line = .ok c := by
  simp only [Command.parse, h, argument_eq_readWith, unsignedArg_eq_readWith,
    valueArg_eq_readWith]
  cases c with
  | new program =>
    obtain ⟨rfl, rfl⟩ := spells
    rfl
  | rm pid =>
    obtain ⟨rfl, a, rfl, read⟩ := spells
    simp [readWith_cons_bind, read, pure, Except.pure]
  | ps => obtain ⟨rfl, rfl⟩ := spells; rfl
  | dump pid =>
    obtain ⟨rfl, a, rfl, read⟩ := spells
    simp [readWith_cons_bind, read, pure, Except.pure]
  | dumpMemory start stop =>
    obtain ⟨rfl, a, b, rfl, read, read'⟩ := spells
    simp [readWith_cons_bind, read, read', pure, Except.pure]
  | frames => obtain ⟨rfl, rfl⟩ := spells; rfl
  | disk => obtain ⟨rfl, rfl⟩ := spells; rfl
  | exec pid =>
    obtain ⟨rfl, a, rfl, read⟩ := spells
    simp [readWith_cons_bind, read, pure, Except.pure]
  | execAll => obtain ⟨rfl, rfl⟩ := spells; rfl
  | input pid value =>
    obtain ⟨rfl, a, b, rfl, read, read'⟩ := spells
    simp [readWith_cons_bind, read, read', pure, Except.pure]
  | traceOn => obtain ⟨rfl, rfl⟩ := spells; rfl
  | traceOff => obtain ⟨rfl, rfl⟩ := spells; rfl
  | audit => obtain ⟨rfl, rfl⟩ := spells; rfl
  | help => obtain ⟨rfl, rfl⟩ := spells; rfl
  | exit => obtain ⟨rfl | rfl, rfl⟩ := spells <;> rfl

/-! ## Rendering -/

/-- The word that names a command. -/
def Command.word : Command → String
  | .new _ => "new"
  | .rm _ => "rm"
  | .ps => "ps"
  | .dump _ => "dump"
  | .dumpMemory .. => "dumpm"
  | .frames => "frames"
  | .disk => "disk"
  | .exec _ => "exec"
  | .execAll => "execall"
  | .input .. => "in"
  | .traceOn => "traceon"
  | .traceOff => "traceoff"
  | .audit => "audit"
  | .help => "help"
  | .exit => "exit"

/-- The arguments of a command, numbers in decimal. -/
def Command.args : Command → List String
  | .new program => [program]
  | .rm pid | .dump pid | .exec pid => [toString pid]
  | .dumpMemory start stop => [toString start, toString stop]
  | .input pid value => [toString pid, toString value.toInt]
  | _ => []

/-- The line that asks for a command: its word and its arguments, separated by single
spaces. -/
def Command.render (c : Command) : String := " ".intercalate (c.word :: c.args)

/-- The commands a line can ask for: pids and addresses are unsigned 64-bit numbers, and the
program name is one token. -/
def Command.Fits : Command → Prop
  | .new program => IsToken program
  | .rm pid | .dump pid | .exec pid | .input pid _ => pid < unsignedBound
  | .dumpMemory start stop => start < unsignedBound ∧ stop < unsignedBound
  | _ => True

/-- The decimal numeral of a number below 2^64 reads back as that number. -/
theorem unsignedValue?_repr {n : Nat} (below : n < unsignedBound) :
    unsignedValue? n.repr = some n :=
  parseNatBelow?_repr below

/-- The decimal numeral of a 32-bit value reads back as that value. -/
theorem inputValue?_repr (v : Int32) : inputValue? v.toInt.repr = some v := by
  have low : -2147483648 ≤ v.toInt := v.le_toInt
  have high : v.toInt ≤ 2147483647 := v.toInt_le
  simp [inputValue?, parseIntWithin?_repr low high]

/-- The rendering of a command that fits spells it. -/
theorem Command.spells_render {c : Command} (fits : c.Fits) : c.Spells c.word c.args := by
  cases c <;>
    simp_all [Command.Fits, Command.Spells, Command.word, Command.args, unsignedValue?_repr,
      inputValue?_repr]

/-- The rendering of a command that fits is made of tokens. -/
theorem Command.isToken_render {c : Command} (fits : c.Fits) :
    ∀ t ∈ c.word :: c.args, IsToken t := by
  cases c <;> simp_all [Command.Fits, Command.word, Command.args, isToken_repr, isToken_intRepr] <;>
    decide

/-! ## The grammar of command lines -/

/-- The command read from a line depends only on its tokens. -/
theorem parse_eq_of_tokens_eq {l₁ l₂ : String} (same : tokens l₁ = tokens l₂) :
    Command.parse l₁ = Command.parse l₂ := by
  simp only [Command.parse, words_eq_tokens, same]

/-- A line reads as a command exactly when a word with arguments that spell the command starts
its tokens. -/
theorem parse_eq_ok_iff (line : String) (c : Command) :
    Command.parse line = .ok c ↔
      ∃ w used extra, tokens line = w :: (used ++ extra) ∧ c.Spells w used := by
  constructor
  · intro ok
    cases h : tokens line with
    | nil =>
      rw [parse_blank ((words_eq_tokens line).trans h)] at ok
      cases ok
    | cons w args =>
      have h' := (words_eq_tokens line).trans h
      cases known : grammar.lookup w with
      | none =>
        rw [parse_unknown h' known] at ok
        cases ok
      | some sig =>
        obtain ⟨used, extra, rfl, spells⟩ := (parse_reads h' known).spells_of_ok ok
        exact ⟨w, used, extra, rfl, spells⟩
  · rintro ⟨w, used, extra, h, spells⟩
    exact parse_of_spells spells ((words_eq_tokens line).trans h)

/-- A line reads as some command exactly when its first token is a command word and the
arguments that word takes are all there and each is accepted. -/
theorem parse_ok_iff_accepted (line : String) :
    (∃ c, Command.parse line = .ok c) ↔
      ∃ w args sig, tokens line = w :: args ∧ grammar.lookup w = some sig ∧
        List.Forall₂ (fun a t => a.1.accepts t = true) sig (args.take sig.length) := by
  cases h : tokens line with
  | nil => simp [parse_blank ((words_eq_tokens line).trans h)]
  | cons w args =>
    have h' := (words_eq_tokens line).trans h
    cases known : grammar.lookup w with
    | none => simp [parse_unknown h' known, known]
    | some sig => simp [(parse_reads h' known).ok_iff, firstFault_eq_none_iff, known]

/-- The error of a line that does not read: an unknown first token (empty for a blank line), or
the first argument of its word that is missing or does not read. -/
theorem parse_eq_error_iff (line : String) (e : ShellError) :
    Command.parse line = .error e ↔
      (tokens line = [] ∧ e = .unknownCommand "") ∨
        ∃ w args, tokens line = w :: args ∧
          ((grammar.lookup w = none ∧ e = .unknownCommand w) ∨
            ∃ sig, grammar.lookup w = some sig ∧ firstFault w sig args = some e) := by
  cases h : tokens line with
  | nil =>
    simp only [parse_blank ((words_eq_tokens line).trans h), Except.error.injEq]
    simpa using eq_comm
  | cons w args =>
    have h' := (words_eq_tokens line).trans h
    cases known : grammar.lookup w with
    | none =>
      rw [parse_unknown h' known, Except.error.injEq]
      constructor
      · rintro rfl
        exact .inr ⟨w, args, rfl, .inl ⟨known, rfl⟩⟩
      · rintro (⟨empty, -⟩ | ⟨w', args', same, ⟨-, rfl⟩ | ⟨sig, known', -⟩⟩)
        · cases empty
        · cases same
          rfl
        · cases same
          rw [known] at known'
          cases known'
    | some sig =>
      rw [(parse_reads h' known).error_iff]
      constructor
      · intro fault
        exact .inr ⟨w, args, rfl, .inr ⟨sig, known, fault⟩⟩
      · rintro (⟨empty, -⟩ | ⟨w', args', same, ⟨unknown, -⟩ | ⟨sig', known', fault⟩⟩)
        · cases empty
        · cases same
          rw [known] at unknown
          cases unknown
        · cases same
          rw [known] at known'
          cases known'
          exact fault

example : Command.parse "in 7" = .error (.missingArgument "in" "a value") := by decide
example : Command.parse "  dumpm 12 x1 9" = .error (.invalidNumber "x1") := by decide

/-- The shell reads the rendering of a command that fits as the command. -/
theorem parse_render {c : Command} (fits : c.Fits) : Command.parse c.render = .ok c :=
  @parse_of_spells c.render c.word c.args [] c (c.spells_render fits) (by
    rw [words_eq_tokens, Command.render, tokens_intercalate (c.isToken_render fits),
      List.append_nil])

example : (Command.input 3 (-5)).render = "in 3 -5" := by decide

/-- The shell reads command lines by their grammar: the result depends only on the tokens of
the line; a line reads as a command exactly when its first token is a command word followed by
arguments that spell the command, which are all there and accepted, the tokens after them being
ignored; otherwise the error is the unknown first token or the first missing or malformed
argument; and the rendering of every command that fits reads back as that command. -/
theorem parse_follows_grammar :
    (∀ l₁ l₂, tokens l₁ = tokens l₂ → Command.parse l₁ = Command.parse l₂) ∧
    (∀ line c, Command.parse line = .ok c ↔
      ∃ w used extra, tokens line = w :: (used ++ extra) ∧ c.Spells w used) ∧
    (∀ line, (∃ c, Command.parse line = .ok c) ↔
      ∃ w args sig, tokens line = w :: args ∧ grammar.lookup w = some sig ∧
        List.Forall₂ (fun a t => a.1.accepts t = true) sig (args.take sig.length)) ∧
    (∀ line e, Command.parse line = .error e ↔
      (tokens line = [] ∧ e = .unknownCommand "") ∨
        ∃ w args, tokens line = w :: args ∧
          ((grammar.lookup w = none ∧ e = .unknownCommand w) ∨
            ∃ sig, grammar.lookup w = some sig ∧ firstFault w sig args = some e)) ∧
    (∀ c : Command, c.Fits → Command.parse c.render = .ok c) :=
  ⟨fun _ _ => parse_eq_of_tokens_eq, parse_eq_ok_iff, parse_ok_iff_accepted, parse_eq_error_iff,
    fun _ => parse_render⟩

end Shell

end PagedMachine
