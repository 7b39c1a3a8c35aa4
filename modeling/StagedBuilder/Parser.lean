import StagedBuilder.Separated

/-!
# Parsers

A parser reads the front of a list and leaves the rest. That the rest is a suffix of the input
is part of the type, so nothing that is built from parsers can invent, drop or reorder what it
was given; and a loop over a parser has no more rounds than its input has elements.
-/

namespace StagedBuilder

/-- Reads a front part of the input, or refuses it. -/
def Parser (τ α : Type) : Type :=
  (input : List τ) → Option (α × { rest : List τ // rest <:+ input })

namespace Parser

variable {τ α β : Type}

protected def pure (a : α) : Parser τ α := fun input => some (a, ⟨input, List.suffix_rfl⟩)

/-- Reads what `p` reads, and then what the parser that its result chooses reads. -/
protected def bind (p : Parser τ α) (f : α → Parser τ β) : Parser τ β := fun input =>
  match p input with
  | none => none
  | some (a, rest) =>
    match f a rest.val with
    | none => none
    | some (b, rest') => some (b, ⟨rest'.val, rest'.property.trans rest.property⟩)

protected def failure : Parser τ α := fun _ => none

/-- Reads what the first of two parsers reads that does not refuse. -/
protected def orElse (p : Parser τ α) (q : Unit → Parser τ α) : Parser τ α := fun input =>
  match p input with
  | some r => some r
  | none => q () input

instance : Monad (Parser τ) where
  pure := Parser.pure
  bind := Parser.bind

instance : Alternative (Parser τ) where
  failure := Parser.failure
  orElse := Parser.orElse

/-- Reads one element, if the test gives a value for it. -/
def one (f : τ → Option α) : Parser τ α
  | [] => none
  | t :: rest => (f t).map fun a => (a, ⟨rest, List.suffix_cons t rest⟩)

/-- Refuses unless the condition holds. -/
def require (condition : Bool) : Parser τ Unit := if condition then pure () else failure

/-- Looks at the whole input that lies ahead and reads nothing. -/
def ahead (f : List τ → α) : Parser τ α := fun input =>
  some (f input, ⟨input, List.suffix_rfl⟩)

def atEnd : Parser τ Bool := ahead List.isEmpty

/-- Whether `p` would read something here. Nothing is read. -/
def lookahead (p : Parser τ α) : Parser τ Bool := fun input =>
  some ((p input).isSome, ⟨input, List.suffix_rfl⟩)

/-- What `p` would answer here, unless it refuses. Nothing is read. -/
def peek (p : Parser τ α) : Parser τ (Option α) := fun input =>
  some ((p input).map Prod.fst, ⟨input, List.suffix_rfl⟩)

/-- Reads what `p` reads and answers with the elements themselves beside its result. -/
def withInput (p : Parser τ α) : Parser τ (α × List τ) := fun input =>
  match p input with
  | none => none
  | some (a, rest) => some ((a, input.take (input.length - rest.val.length)), rest)

/-- The whole input that lies ahead. Nothing is read. -/
def position : Parser τ (List τ) := ahead id

/-- What was read since `start` lay ahead. Nothing is read. -/
def since (start : List τ) : Parser τ (List τ) :=
  ahead fun rest => start.take (start.length - rest.length)

/-- Reads the next `n` elements, or as many as there are. -/
def take (n : Nat) : Parser τ (List τ) := fun input =>
  some (input.take n, ⟨input.drop n, List.drop_suffix n input⟩)

/-- The results of reading `p` as often as it succeeds, but at most `rounds` times, and what is
left then. -/
def repeated (p : Parser τ α) :
    (rounds : Nat) → (input : List τ) → List α × { rest : List τ // rest <:+ input }
  | 0, input => ([], ⟨input, List.suffix_rfl⟩)
  | rounds + 1, input =>
    match p input with
    | none => ([], ⟨input, List.suffix_rfl⟩)
    | some (a, rest) =>
      let (as, rest') := repeated p rounds rest.val
      (a :: as, ⟨rest'.val, rest'.property.trans rest.property⟩)

/-- Reads `p` as often as it succeeds. A round reads something, so there are no more rounds than
elements. -/
def many (p : Parser τ α) : Parser τ (List α) := fun input =>
  some (repeated p input.length input)

/-- Reads `p` as long as the condition holds where it stands, but at most `rounds` times. -/
def repeatedWhile (condition : Parser τ Bool) (p : Parser τ α) :
    (rounds : Nat) → Parser τ (List α)
  | 0 => pure []
  | rounds + 1 => do
    if ← condition then
      let a ← p
      return a :: (← repeatedWhile condition p rounds)
    else return []

/-- Reads `p` as long as the condition holds where it stands. Where it holds `p` has to
succeed. A round reads something, so there are no more rounds than elements. -/
def manyWhile (condition : Parser τ Bool) (p : Parser τ α) : Parser τ (List α) := do
  if ← condition then fun input => repeatedWhile condition p input.length input
  else return []

/-- Takes steps from a value on until one gives nothing, but at most `rounds` of them. -/
def steps (step : α → Parser τ (Option α)) : (rounds : Nat) → α → Parser τ α
  | 0, a => pure a
  | rounds + 1, a => do
    match ← step a with
    | none => return a
    | some next => steps step rounds next

/-- Takes steps from a value on until one gives nothing. A step that gives something reads
something, so there are no more of them than elements. -/
def iterate (step : α → Parser τ (Option α)) (a : α) : Parser τ α := do
  match ← step a with
  | none => return a
  | some next => fun input => steps step input.length next input

/-- The items read with a separator after each but perhaps the last, at most `rounds` of them,
and what is left then. -/
def separated (item : Parser τ α) (separator : Parser τ β) :
    (rounds : Nat) → (input : List τ) → Separated α × { rest : List τ // rest <:+ input }
  | 0, input => (⟨[], false⟩, ⟨input, List.suffix_rfl⟩)
  | rounds + 1, input =>
    match item input with
    | none => (⟨[], false⟩, ⟨input, List.suffix_rfl⟩)
    | some (a, rest) =>
      match separator rest.val with
      | none => (⟨[a], false⟩, rest)
      | some (_, next) =>
        let (more, stop) := separated item separator rounds next.val
        (⟨a :: more.items, more.items.isEmpty || more.trailing⟩,
          ⟨stop.val, stop.property.trans (next.property.trans rest.property)⟩)

/-- Reads items with a separator between them and perhaps after the last one. There may be
none. An item reads something, so there are no more items than elements. -/
def sepEnd (item : Parser τ α) (separator : Parser τ β) : Parser τ (Separated α) := fun input =>
  some (separated item separator input.length input)

/-- The result of a parser that has to read the whole input. -/
def all? (p : Parser τ α) (input : List τ) : Option α :=
  match p input with
  | some (a, ⟨[], _⟩) => some a
  | _ => none

end Parser

end StagedBuilder
