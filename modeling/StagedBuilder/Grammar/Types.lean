import StagedBuilder.Grammar.Phrase

/-!
# The grammar of types

Types, expressions and items hold one another, so their readers are written against a
`Grammar`, the readers of everything that may stand inside. None of the readers here is
recursive; the one knot is tied where the grammar is complete.

A sum of bounds is read only where a `+` cannot be meant for somebody else: behind `&`, `*` and
`->` a type ends before it. Where a `+` has been read and a bound can begin, there has to be
one.
-/

namespace StagedBuilder

/-- The readers of what stands inside. -/
structure Grammar where
  /-- A type, with a sum of bounds or without. -/
  ty (allowPlus : Bool) : Reader Ty
  bound : Reader Bound
  /-- An operand of an expression with what is applied to it, where a brace may begin the
  fields of a struct or may not. -/
  operand (allowStruct : Bool) : Reader Phrase
  /-- An operand that ends with a block, without anything applied to it. -/
  blockLike : Reader Phrase
  /-- An expression, where a brace may begin the fields of a struct or may not. -/
  expr (allowStruct : Bool) : Reader (List Piece)
  /-- A pattern without alternatives. -/
  pattern : Reader (List Piece)
  /-- The inside of a block, up to its end. -/
  statements : Reader (List Piece)
  /-- An item with its attributes. -/
  item : Reader (List Piece)
  /-- What a `use` names, or nothing if it is kept as its tokens. Its groups may hold absolute
  paths or may not. -/
  imports (mayBeRooted : Bool) : Reader (Option (List Piece))

namespace Grammar

open StagedBuilder.Parser Reader

variable (g : Grammar)

/-! ## Lifetimes -/

def lifetimeParam : Reader LifetimeParam := do
  let attrs ← attributes
  let l ← lifetime
  if ← optOp ":" then
    let bounds ← sepEnd lifetime (op "+")
    return ⟨attrs, l, bounds.items, bounds.trailing⟩
  else return ⟨attrs, l, [], false⟩

def binder : Reader Binder := do
  let _ ← keyword "for"
  op "<"
  let params ← sepEnd lifetimeParam comma
  op ">"
  return ⟨params.items, params.trailing⟩

def optBinder : Reader (Option Binder) := whenSeen (seesWord "for") binder

/-! ## Arguments -/

/-- Reads the type after an arrow, if there is one. -/
def output (allowPlus : Bool) : Reader (Option Ty) :=
  whenSeen (sees "->") (do op "->"; g.ty allowPlus)

/-- Whether the arguments of a function trait follow, with `::` before them or not. -/
def seesCall : Reader Bool := do
  return (← seesGroup .paren) || (← lookahead (do op "::"; group .paren))

def callArgs : Reader Args := do
  let _ ← optOp "::"
  let inputs ← inGroup .paren (sepEnd (g.ty true) comma)
  return .call inputs.items inputs.trailing (← g.output false)

def plainLiteral : Reader (List Piece) :=
  (do let (_, text) ← literal
      return [.word text]) <|>
  (do let (i, _) ← identIf fun i => !i.raw && (i.name == "true" || i.name == "false")
      return [.word i.name])

/-- Reads a literal as a constant argument; a number may have a sign. -/
def signedLiteral : Reader (List Piece) := do
  if ← optOp "-" then
    let (kind, text) ← literal
    require (kind == .integer || kind == .float)
    return [.word "-", .word text]
  else plainLiteral

/-- Whether a constant argument lies ahead that no type could be. -/
def seesConst : Reader Bool := do
  return (← lookahead signedLiteral) || (← seesGroup .brace)

/-- Reads a block that may begin with attributes of its own. -/
def openBlock : Reader (List Piece) := groupOf .brace (inOrder [innerPieces, g.statements])

def block : Reader (List Piece) := groupOf .brace g.statements

def constArg : Reader (List Piece) := do
  if ← seesGroup .brace then g.openBlock else signedLiteral

def boundSum : Reader (Separated Bound) := sepEnd g.bound (op "+")

/-- Whether a type is one name with arguments between angle brackets. -/
def isGenericName : Ty → Bool
  | .path (.plain (.mk false [.mk _ (.angle ..)])) => true
  | _ => false

/-- Reads what makes a binding or a constraint of a name with arguments, and answers whether it
was there. -/
def longTail : Reader Bool := do
  if ← optOp "=" then
    let _ ← g.ty true
    return true
  else if ← optOp ":" then
    let _ ← g.boundSum
    return true
  else return false

/-- Reads an argument between angle brackets. A constant that a name is bound to, and a binding
or a constraint of a name with arguments, are kept as their tokens. -/
def arg : Reader Arg := do
  -- A lifetime with `+` behind it begins a trait object, which is a type.
  if (← seesLifetime) && !(← lookahead (do let _ ← lifetime; op "+")) then
    return .lifetime (← lifetime)
  else if ← lookahead (do let _ ← name; op "=") then
    let n ← name
    op "="
    if ← seesConst then
      let start ← position
      let _ ← g.constArg
      return .binding n (.verbatim (← since start))
    else return .binding n (← g.ty true)
  else if ← lookahead (do let _ ← name; require (← seesColon)) then
    let n ← name
    op ":"
    let bounds ← g.boundSum
    return .constraint n bounds.items bounds.trailing
  else if ← seesConst then return .const (← g.constArg)
  else
    -- What may follow a name with arguments is read behind it, as it begins like any type.
    let start ← position
    let t ← g.ty true
    if isGenericName t then
      if ← g.longTail then return .type (.verbatim (← since start))
    return .type t

def angleArgs : Reader Args := do
  let colons ← optOp "::"
  op "<"
  let args ← sepEnd g.arg comma
  op ">"
  return .angle colons args.items args.trailing

/-! ## Paths -/

/-- Whether arguments between angle brackets lie ahead with `::` before them. -/
def seesTurbofish : Reader Bool := lookahead (do op "::"; op "<")

/-- Reads a name in a path. In an expression its arguments need `::` before them, since `<`
could be an operator. -/
def segment (inExpr : Bool) : Reader Segment := do
  if ← seesWordOf ["super", "self", "crate"] then return .mk (← anyIdent) .none
  else
    let (i, _) ← identIf fun i => isName i || i == .plain "Self"
    if (!inExpr && (← sees "<") && !(← sees "<=")) || (← seesTurbofish) then
      return .mk i (← g.angleArgs)
    else return .mk i .none

/-- Whether a separator lies ahead and no parenthesis behind it. -/
def seesNextSegment : Reader Bool := do
  return (← sees "::") && !(← seesCall)

/-- Reads the names that follow in a path, each behind its `::`. -/
def moreSegments (inExpr : Bool) : Reader (List Segment) :=
  manyWhile seesNextSegment (do op "::"; g.segment inExpr)

def path (inExpr : Bool) : Reader Path := do
  let absolute ← optOp "::"
  let first ← g.segment inExpr
  return .mk absolute (first :: (← g.moreSegments inExpr))

/-- The names of a path but for the last, and the last if it has no arguments. -/
def openEnd? (ss : List Segment) : Option (List Segment × Ident) :=
  match ss.getLast? with
  | some (.mk i .none) | some (.mk i (.angle _ [] _)) => some (ss.dropLast, i)
  | _ => none

/-- Whether a path may go on behind the arguments of a function trait: their result is in
parentheses or not named. -/
def endsClosed : Args → Bool
  | .call _ _ none | .call _ _ (some (.paren _)) => true
  | _ => false

/-- Reads the arguments of a function trait behind the last of some names, if they are there
and it has no others, and the names that follow. -/
def callStep (ss : List Segment) : Reader (Option (List Segment)) := do
  match openEnd? ss with
  | none => return none
  | some (front, i) =>
    if ← seesCall then
      let args ← g.callArgs
      let more ← if endsClosed args then g.moreSegments false else pure []
      return some (front ++ .mk i args :: more)
    else return none

/-- Reads a path that may begin at a type. Behind such a type every `::` is followed by a
name. -/
def qpath (inExpr : Bool) : Reader QPath := do
  if ← sees "<" then
    op "<"
    let self ← g.ty true
    let trait ← whenSeen (seesWord "as") (do let _ ← keyword "as"; g.path false)
    op ">"
    op "::"
    let first ← g.segment inExpr
    let rest ← manyWhile (sees "::") (do op "::"; g.segment inExpr)
    return .within self trait (first :: rest)
  else return .plain (← g.path inExpr)

def typePath : Reader QPath := do
  match ← g.qpath false with
  | .plain (.mk absolute ss) => return .plain (.mk absolute (← iterate g.callStep ss))
  | .within self trait rest => return .within self trait (← iterate g.callStep rest)

/-! ## Bounds -/

/-- Reads the mark `~const` of a bound if it is there, and answers whether it was. -/
def optConstMark : Reader Bool := do
  return (← optional (do op "~"; keyword "const")).isSome

def traitBound (inParens : Bool) : Reader Bound := do
  let isConst ← optConstMark
  let isMaybe ← optOp "?"
  let binder ← optBinder
  let .mk absolute ss ← g.path false
  match openEnd? ss with
  | some (front, i) =>
    if ← seesCall then
      let ss := front ++ [.mk i (← g.callArgs)]
      return .trait inParens isConst isMaybe binder (.mk absolute ss)
    else return .trait inParens isConst isMaybe binder (.mk absolute ss)
  | none => return .trait inParens isConst isMaybe binder (.mk absolute ss)

def anyBound : Reader Bound := do
  if ← seesLifetime then return .lifetime (← lifetime)
  else if ← seesGroup .paren then inGroup .paren (g.traitBound true)
  else g.traitBound false

/-- Whether what lies ahead begins a bound of a type. -/
def seesBound : Reader Bool := do
  return (← lookahead anyIdent) || (← sees "::") || (← sees "?") || (← seesLifetime) ||
    (← seesGroup .paren)

/-- Reads a sum of bounds that ends where no bound can begin. -/
def boundsWhile (begins : Reader Bool) : Reader (Separated Bound) := do
  let bs ← g.boundSum
  if bs.trailing || bs.items.isEmpty then
    require (!(← begins))
  return bs

/-- Reads bounds with `+` between them, or only one where a sum has no place. There is at least
one. -/
def bounds (allowPlus : Bool) : Reader (Separated Bound) := do
  if allowPlus then
    let bs ← g.boundsWhile (do return (← seesBound) || (← sees "~"))
    require (!bs.items.isEmpty)
    return bs
  else return ⟨[← g.bound], false⟩

/-- Whether one of some bounds is a trait. -/
def someTrait (bs : List Bound) : Bool :=
  bs.any fun
    | .trait .. => true
    | .lifetime _ => false

/-- Reads the bounds of a trait object or of an `impl`, which name a trait. -/
def traitBounds (allowPlus : Bool) : Reader (Separated Bound) := do
  let bs ← g.bounds allowPlus
  require (someTrait bs.items)
  return bs

/-- Reads what `+` adds to a first bound that was in parentheses: no `+` without a bound. -/
def boundsAfterParens (first : Bound) : Reader Ty := do
  if ← optOp "+" then
    let more ← g.boundSum
    require (!more.items.isEmpty && !more.trailing)
    return .object false (first :: more.items) false
  else return .object false [first] false

/-- Reads what `+` adds to a first bound that was a path. -/
def boundsAfterPath (first : Bound) : Reader Ty := do
  if ← optOp "+" then
    if ← seesBound then
      let more ← g.boundsWhile seesBound
      return .object false (first :: more.items) more.trailing
    else return .object false [first] true
  else return .object false [first] false

/-! ## Types -/

/-- Reads what stands between the parentheses of a type: a tuple, a bound with `?`, or a
type. -/
def insideParens : Reader Ty := do
  if ← seesLifetime then return .paren (← g.ty true)
  else if ← sees "?" then return .object false [← g.traitBound true] false
  else
    let items ← sepEnd (g.ty true) comma
    match items with
    | ⟨[t], false⟩ => return .paren t
    | ⟨ts, trailing⟩ => return .tuple ts trailing

/-- The bound that a type in parentheses is when a `+` follows it. -/
def boundOfParens : Ty → Option Bound
  | .paren (.path (.plain p)) => some (.trait true false false none p)
  | .paren (.object false [.trait _ isConst isMaybe binder p] false) =>
    some (.trait true isConst isMaybe binder p)
  | _ => none

def parenTy (allowPlus : Bool) : Reader Ty := do
  let t ← inGroup .paren g.insideParens
  match t with
  | .object false [first] false => g.boundsAfterParens first
  | _ =>
    match boundOfParens t with
    | some first => if allowPlus && (← sees "+") then g.boundsAfterParens first else return t
    | none => return t

def abi : Reader (Option (Option String)) :=
  whenSeen (seesWord "extern") (do
    let _ ← keyword "extern"
    optional (do
      let (kind, text) ← literal
      require (kind == .string)
      return text))

/-- Reads the name of a function type's parameter and its colon. -/
def inputLabel : Reader Ident := do
  let (i, _) ← identIf fun i => isName i || i == .plain "_" || i == .plain "self"
  require (← seesColon)
  op ":"
  return i

/-- Reads a parameter of a function type, or nothing for a `mut self`, for which a function
type has no place. -/
def fnInput : Reader (Option FnInput) := do
  let attrs ← attributes
  let label ← optional inputLabel
  if label.isNone && (← lookahead (do let _ ← keyword "mut"; keyword "self")) then
    let _ ← keyword "mut"
    let _ ← keyword "self"
    if ← seesColon then
      op ":"
      let _ ← g.ty true
    return none
  else if label.isSome && (← sees "...") then
    op "..."
    return some (.mk attrs label .variadic)
  else return some (.mk attrs label (← g.ty true))

/-- Reads the parameters of a function type, and `...` with its attributes if it ends them. -/
def fnInputs : Reader (Separated (Option FnInput) × Option (List Attribute)) := do
  let inputs ← sepEnd g.fnInput comma
  if inputs.items.isEmpty || inputs.trailing then
    let variadic ← optional (do let attrs ← attributes; op "..."; return attrs)
    return (inputs, variadic)
  else return (inputs, none)

/-- Reads a function type that begins at `start`, with its lifetimes. One with a parameter that
it has no place for is kept as its tokens. -/
def fnTy (start : List TokenTree) (binder : Option Binder) : Reader Ty := do
  let isUnsafe ← optWord "unsafe"
  let abi ← abi
  let _ ← keyword "fn"
  let (inputs, variadic) ← inGroup .paren g.fnInputs
  let result ← g.output false
  match inputs.items.mapM id with
  | some items => return .function ⟨binder, isUnsafe, abi⟩ items inputs.trailing variadic result
  | none => return .verbatim (← since start)

/-- Reads a trait object with `dyn`. One with `dyn*`, from `start` on, is kept as its tokens. -/
def dynTy (start : List TokenTree) (allowPlus : Bool) : Reader Ty := do
  let _ ← keyword "dyn"
  let isStarred ← optOp "*"
  let bs ← g.traitBounds allowPlus
  if isStarred then return .verbatim (← since start)
  else return .object true bs.items bs.trailing

/-- Whether no name of a path has arguments. -/
def isBare (p : Path) : Bool :=
  p.segments.all fun s =>
    match s.args with
    | .none => true
    | _ => false

def pathTy (allowPlus : Bool) (binder : Option Binder) : Reader Ty := do
  match ← g.typePath with
  | .within self trait rest => return .path (.within self trait rest)
  | .plain p =>
    if isBare p && (← seesBang) then
      op "!"
      let (delim, args) ← anyGroup
      return .invocation p delim args
    else if binder.isSome || (allowPlus && (← sees "+")) then
      let first := Bound.trait false false false binder p
      if allowPlus then g.boundsAfterPath first else return .object false [first] false
    else return .path (.plain p)

def pointerTy : Reader Ty := do
  op "*"
  let isMut ← optWord "mut"
  if !isMut then
    let _ ← keyword "const"
  return .pointer isMut (← g.ty false)

def referenceTy : Reader Ty := do
  op "&"
  let l ← optional lifetime
  let isMut ← optWord "mut"
  return .reference l isMut (← g.ty false)

def bracketTy : Reader Ty :=
  inGroup .bracket (do
    let item ← g.ty true
    if ← optOp ";" then return .array item (← g.expr true) else return .slice item)

def seesFnTy : Reader Bool := seesWordOf ["fn", "unsafe", "extern"]

/-- Whether a type that lifetimes can be bound for lies ahead: a function type or a path that
begins with a name. -/
def seesBindable : Reader Bool := do
  return (← seesFnTy) || (← seesWordOf ["super", "self", "Self", "crate"]) ||
    ((← seesName) && !(← seesWord "dyn"))

def anyTy (allowPlus : Bool) : Reader Ty := do
  let start ← position
  if ← seesWord "for" then
    let b ← binder
    require (← seesBindable)
    if ← seesFnTy then g.fnTy start (some b) else g.pathTy allowPlus (some b)
  else if ← seesGroup .paren then g.parenTy allowPlus
  else if ← seesFnTy then g.fnTy start none
  else if ← seesWord "dyn" then g.dynTy start allowPlus
  else if ← seesGroup .bracket then g.bracketTy
  else if ← sees "*" then g.pointerTy
  else if ← sees "&" then g.referenceTy
  else if ← sees "!" then
    op "!"
    return .never
  else if ← seesWord "impl" then
    let _ ← keyword "impl"
    let bs ← g.traitBounds allowPlus
    return .existential bs.items bs.trailing
  else if ← seesWord "_" then
    let _ ← keyword "_"
    return .infer
  else if ← seesLifetime then
    -- Bounds that begin with a lifetime make a trait object without `dyn`.
    let bs ← g.traitBounds allowPlus
    return .object false bs.items bs.trailing
  else g.pathTy allowPlus none

end Grammar

end StagedBuilder
