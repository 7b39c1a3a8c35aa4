import StagedBuilder.Grammar.Expressions
import StagedBuilder.Grammar.Generics

/-!
# The grammar of items inside blocks

A block can hold items of every kind, and like an expression they are read for the types they
name. A reader of an item answers with its pieces, or with nothing if the item, though it can
be read, is one that is kept as its tokens: a function without a body, an implementation with a
visibility, and their like.
-/

namespace StagedBuilder.Grammar

open StagedBuilder.Parser Reader

variable (g : Grammar)

/-! ## Functions -/

def optAbi : Reader (List Piece) := do
  match ← abi with
  | none => return []
  | some name => return .word "extern" :: (name.map Piece.word).toList

def seesSignature : Reader Bool :=
  lookahead (do
    let _ ← inOrder [optWordOf "const", optWordOf "async", optWordOf "unsafe", optAbi]
    keyword "fn")

/-- Reads what stands for the object of a method: `self`, perhaps mutable, perhaps by
reference. -/
def receiver : Reader (List Piece) := do
  let reference ← if ← sees "&" then inOrder [opOf "&", optLifetime] else pure []
  return reference ++ (← inOrder [optWordOf "mut", wordOf "self"])

/-- Reads the dots that stand for more parameters. -/
def dots : Reader (List Piece) := opOf "..."

/-- Whether a type lies ahead where a pattern is expected: a name with arguments. -/
def seesBareInput : Reader Bool := lookahead (do let _ ← name; op "<")

/-- Reads a parameter of a function, and answers whether it is the object of a method. A mere
type is written with `_` for its pattern. -/
def input : Reader (Bool × List Piece) := do
  let attrs := Piece.outer (← attributes)
  if ← sees "..." then return (false, attrs ++ (← dots))
  else if ← lookahead (do let _ ← receiver; require (!(← sees ":"))) then
    return (true, attrs ++ (← receiver))
  else if ← seesBareInput then
    return (false, attrs ++ [.word "_", .word ":"] ++ (← g.typePiece true))
  else
    let p ← inOrder [g.alternatives, opOf ":"]
    return (false, attrs ++ p ++ (← if ← sees "..." then dots else g.typePiece true))

/-- Reads the parameters of a function. Only the first may be the object of a method. -/
def inputs : Reader (List Piece) := do
  let items ← sepEnd g.input comma
  require ((items.items.drop 1).all fun (isReceiver, _) => !isReceiver)
  return Piece.commas (items.map Prod.snd)

def optParams : Reader (List Piece) := do
  return Piece.params (← g.params)

def optConditions : Reader (List Piece) := do
  return Piece.conditions (← g.whereClause)

def signature : Reader (List Piece) :=
  inOrder [optWordOf "const", optWordOf "async", optWordOf "unsafe", optAbi, wordOf "fn",
    namePiece, g.optParams, groupOf .paren g.inputs,
    piecesIf (sees "->") (inOrder [opOf "->", g.typePiece true]), g.optConditions]

/-! ## Constants, variables and types -/

def itemType : Reader (List Piece) := inOrder [opOf ":", g.typePiece true]

def itemValue : Reader (List Piece) := inOrder [opOf "=", g.expr true, opOf ";"]

/-- Reads the end of an item that lacks something. -/
def unfinished : Reader (Option (List Piece)) := do
  op ";"
  return none

/-- Whether a constant lies ahead, and no function or block that is marked in the same way. -/
def seesConstant : Reader Bool :=
  lookahead (do
    let _ ← keyword "const"
    identIf fun i => isName i || i == .plain "_")

def constantHead : Reader (List Piece) :=
  inOrder [wordOf "const", namePiece <|> wordOf "_", g.itemType]

def constantItem : Reader (Option (List Piece)) := do
  let head ← g.constantHead
  if ← sees ";" then unfinished else return some (head ++ (← g.itemValue))

/-- Reads a variable that lives as long as the program. -/
def staticItem : Reader (Option (List Piece)) := do
  let head ← inOrder [wordOf "static", optWordOf "mut", namePiece]
  if ← sees "=" then
    let _ ← g.itemValue
    return none
  else
    let t ← g.itemType
    if ← sees ";" then unfinished else return some (head ++ t ++ (← g.itemValue))

def optTypeValue : Reader (List Piece) :=
  piecesIf (sees "=") (inOrder [opOf "=", g.typePiece true])

def optBounds : Reader (List Piece) := do
  if ← optOp ":" then return Piece.bounds (← g.boundSum) else return []

def typeHead : Reader (List Piece) := inOrder [wordOf "type", namePiece, g.optParams]

/-- Reads a name for a type. The where clause stands before the type or behind it. One with
bounds or without a type is unfinished. -/
def typeItem (whereFirst : Bool) : Reader (Option (List Piece)) := do
  let head ← g.typeHead
  let hasColon ← sees ":"
  let _ ← g.optBounds
  let first ← if whereFirst then g.optConditions else pure []
  let value ← g.optTypeValue
  let last ← if whereFirst then pure [] else g.optConditions
  let stop ← opOf ";"
  if hasColon || value.isEmpty then return none
  else return some (head ++ first ++ value ++ last ++ stop)

/-! ## Macros -/

/-- Whether a path lies ahead that can name a macro. -/
def seesMacroPath : Reader Bool := do
  return (← seesName) || (← sees "::") || (← seesWordOf ["self", "super", "crate"])

/-- Reads a call of a macro in the place of an item. It ends with a semicolon or with a
brace. -/
def macroItem : Reader (List Piece) := do
  let head ← inOrder [modPathPieces, opOf "!"]
  let named ← piecesIf seesName namePiece
  let ends ← seesGroup .brace
  let args ← unreadGroup
  return head ++ named ++ args ++ (← if ends then pure [] else opOf ";")

/-- Reads a call of a macro in the place of a member. It has no name of its own. -/
def macroMember : Reader (List Piece) := do
  require (← seesMacroPath)
  let head ← inOrder [modPathPieces, opOf "!"]
  let ends ← seesGroup .brace
  let args ← unreadGroup
  return head ++ args ++ (← if ends then pure [] else opOf ";")

/-- Reads the definition of a macro of the second kind. -/
def macroDefinition : Reader (List Piece) := do
  let head ← inOrder [wordOf "macro", namePiece, piecesIf (seesGroup .paren) unreadGroup]
  require (← seesGroup .brace)
  return head ++ (← unreadGroup)

/-! ## Modules and imports -/

/-- Reads attributes and what they belong to. What is kept as its tokens keeps the attributes
among them. -/
def attributed (thing : Reader (Option (List Piece))) : Reader (List Piece) := do
  let start ← position
  let attrs ← attributes
  match ← thing with
  | some pieces => return Piece.outer attrs ++ pieces
  | none => return [.verbatim (← since start)]

/-- Reads members in braces, behind the attributes of what they are members of. -/
def members (member : Reader (Option (List Piece))) : Reader (List Piece) :=
  groupOf .brace (inOrder [innerPieces, toEnd (attributed member)])

def moduleItem : Reader (List Piece) := do
  let head ← inOrder [wordOf "mod", namePiece]
  if ← sees ";" then return head ++ (← opOf ";")
  else return head ++ (← groupOf .brace (inOrder [innerPieces, toEnd g.item]))

/-- Reads another name for what is imported, if there is one. -/
def optRename : Reader (List Piece) :=
  piecesIf (seesWord "as") (inOrder [wordOf "as", namePiece <|> wordOf "_"])

/-- Reads a part of an import in a group, and answers whether it is an absolute path. After one
such part the others only have to be readable. -/
def groupPart (mayBeRooted : Bool) : Reader (Option (List Piece)) := do
  let isRooted ← if mayBeRooted then optOp "::" else pure false
  let part ← g.imports (mayBeRooted && !isRooted)
  return if isRooted then none else part

/-- Reads what a `use` names. A group that holds an absolute path is kept as its tokens. -/
def anyImports (mayBeRooted : Bool) : Reader (Option (List Piece)) := do
  if ← sees "*" then return some (← opOf "*")
  else if ← seesGroup .brace then
    let parts ← inGroup .brace (sepEnd (g.groupPart mayBeRooted) comma)
    return (parts.items.mapM id).map fun ps => [.group .brace (Piece.commas ⟨ps, parts.trailing⟩)]
  else
    let (i, _) ← identIf fun i =>
      isName i || (!i.raw && ["self", "super", "crate"].contains i.name)
    if ← sees "::" then
      op "::"
      return (← g.imports false).map fun tree => .word i.text :: .word "::" :: tree
    else return some (.word i.text :: (← optRename))

def useItem : Reader (Option (List Piece)) := do
  let head ← inOrder [wordOf "use", optOpOf "::"]
  let tree ← g.imports (head.length == 1)
  let stop ← opOf ";"
  return tree.map fun t => head ++ t ++ stop

/-- Reads the name of a library that is linked. -/
def externCrate : Reader (List Piece) :=
  inOrder [wordOf "extern", wordOf "crate", wordOf "self" <|> namePiece, optRename, opOf ";"]

/-! ## Foreign items -/

/-- Reads a foreign item. One that gives what only its own language knows is kept as its
tokens. -/
def foreignMember : Reader (Option (List Piece)) := do
  let v ← visibility
  if ← seesSignature then
    let sig ← g.signature
    if ← seesGroup .brace then
      let _ ← g.openBlock
      return none
    else return some (v.pieces ++ sig ++ (← opOf ";"))
  else if ← seesWord "static" then
    let head ← inOrder [wordOf "static", optWordOf "mut", namePiece, g.itemType]
    if ← sees "=" then
      let _ ← g.itemValue
      return none
    else return some (v.pieces ++ head ++ (← opOf ";"))
  else if ← seesWord "type" then
    let head ← inOrder [wordOf "type", namePiece]
    if ← sees ";" then return some (v.pieces ++ head ++ (← opOf ";"))
    else
      let _ ← inOrder [g.optParams, g.optBounds]
      let hasWhere ← seesWord "where"
      let _ ← inOrder [g.optConditions, g.optTypeValue]
      -- The where clause stands on one side of the type only.
      let _ ← if hasWhere then pure [] else g.optConditions
      unfinished
  else
    require (v == .inherited)
    return some (← macroMember)

/-- Reads the items of another language. -/
def foreignItem : Reader (List Piece) := inOrder [optAbi, members g.foreignMember]

/-! ## Traits and implementations -/

def traitMethod : Reader (List Piece) := do
  let sig ← g.signature
  if ← sees ";" then return sig ++ (← opOf ";") else return sig ++ (← g.openBlock)

/-- Reads a member of a trait. One with a visibility, or marked as a default, is kept as its
tokens. -/
def traitMember : Reader (Option (List Piece)) := do
  let v ← visibility
  let isDefault ← optWord "default"
  let pieces ←
    if ← seesSignature then g.traitMethod
    else if ← seesConstant then
      let head ← g.constantHead
      if ← sees ";" then inOrder [pure head, opOf ";"] else inOrder [pure head, g.itemValue]
    else if ← seesWord "type" then
      inOrder [g.typeHead, g.optBounds, g.optTypeValue, g.optConditions, opOf ";"]
    else macroMember
  return if v == .inherited && !isDefault then some pieces else none

def traitBody : Reader (List Piece) :=
  inOrder [g.optBounds, g.optConditions, members g.traitMember]

/-- Reads a trait, or a name for a sum of bounds. -/
def traitItem : Reader (List Piece) := do
  let isMarked := !(← seesWord "trait")
  let head ← inOrder [optWordOf "unsafe", optWordOf "auto", wordOf "trait", namePiece, g.optParams]
  if !isMarked && (← sees "=") then
    op "="
    let bounds ← g.boundSum
    return head ++ .word "=" :: Piece.sum bounds ++ (← inOrder [g.optConditions, opOf ";"])
  else return head ++ (← g.traitBody)

/-- Whether the mark of a default lies ahead, and not a macro of that name. -/
def seesDefault : Reader Bool :=
  lookahead (do
    let _ ← keyword "default"
    require (!(← sees "!")))

/-- Reads a member of an implementation. A constant or a type without a value is kept as its
tokens. -/
def implMember : Reader (Option (List Piece)) := do
  let v ← visibility
  let mark ← piecesIf seesDefault (wordOf "default")
  let behind := fun (pieces : List Piece) => v.pieces ++ mark ++ pieces
  if ← seesSignature then return some (behind (← g.traitMethod))
  else if ← seesConstant then return (← g.constantItem).map behind
  else if ← seesWord "type" then return (← g.typeItem false).map behind
  else
    require (v == .inherited && mark.isEmpty)
    return some (← macroMember)

/-- Whether `<` begins the parameters of an implementation, and not the type it is for. -/
def seesImplParams : Reader Bool :=
  lookahead (do
    op "<"
    let isParam ← lookahead (do
      (do let _ ← name) <|> (do let _ ← lifetime)
      require ((← sees ":") || (← sees ",") || (← sees ">") || (← sees "=")))
    require (isParam || (← sees ">") || (← sees "#") || (← seesWord "const")))

/-- Reads the mark `const` or `?const` of an implementation, and answers whether it was
there. -/
def optImplMark : Reader Bool := do
  return (← optional (do let _ ← optOp "?"; keyword "const")).isSome

/-- Reads what an implementation is for: a type, or a trait and a type. Only a path can name
the trait, else there is no place for it. A type that does not have a trait is kept as its
tokens. -/
def implTarget : Reader (Option (List Piece)) := do
  let start ← position
  let isNegative := (← sees "!") && !(← lookahead (do op "!"; group .brace))
  let mark ← if isNegative then opOf "!" else pure []
  let first ← g.ty true
  if ← seesWord "for" then
    let rest ← inOrder [wordOf "for", g.typePiece true]
    return match first with
      | .path (.plain p) => some (mark ++ .path (.plain p) :: rest)
      | _ => none
  else if isNegative then return some [.verbatim (← since start)]
  else return some [.type first]

/-- Reads an implementation. One with a visibility or the mark `const` is kept as its tokens. -/
def implItem (v : Visibility) : Reader (Option (List Piece)) := do
  let head ← inOrder [optWordOf "default", optWordOf "unsafe", wordOf "impl",
    piecesIf seesImplParams g.optParams]
  let isConst ← optImplMark
  let target ← g.implTarget
  let body ← inOrder [g.optConditions, members g.implMember]
  return if v == .inherited && !isConst then target.map fun t => head ++ t ++ body else none

/-! ## Structs, enums and unions -/

def optFields : Reader (List Piece) := do
  if ← seesGroup .brace then return Piece.fields .brace (← g.namedFields)
  else if ← seesGroup .paren then return Piece.fields .paren (← g.unnamedFields)
  else return []

/-- Reads a variant of an enum. A visibility is read and has no effect. -/
def variant : Reader (List Piece) := do
  let attrs ← attributes
  let _ ← visibility
  let rest ← inOrder
    [namePiece, g.optFields, piecesIf (sees "=") (inOrder [opOf "=", g.expr true])]
  return Piece.outer attrs ++ rest

def variants : Reader (List Piece) := groupOf .brace (commaList g.variant)

def unionBody : Reader (List Piece) := do
  let conditions ← g.optConditions
  return conditions ++ Piece.fields .brace (← g.namedFields)

def structBodyPieces : Reader (List Piece) := do
  if ← seesGroup .paren then
    let fields := Piece.fields .paren (← g.unnamedFields)
    return fields ++ (← inOrder [g.optConditions, opOf ";"])
  else
    let conditions ← g.optConditions
    if ← seesGroup .brace then return conditions ++ Piece.fields .brace (← g.namedFields)
    else return conditions ++ (← opOf ";")

/-! ## Items -/

def fnItem : Reader (Option (List Piece)) := do
  let sig ← g.signature
  if ← sees ";" then unfinished else return some (sig ++ (← g.openBlock))

def seesWords (first : String) (second : List String) : Reader Bool :=
  lookahead (do
    let _ ← keyword first
    require (← seesWordOf second))

def seesTrait : Reader Bool :=
  lookahead (do
    let _ ← inOrder [optWordOf "unsafe", optWordOf "auto"]
    keyword "trait")

/-- Whether a union lies ahead, and not something of that name. -/
def seesUnion : Reader Bool :=
  lookahead (do
    let _ ← keyword "union"
    name)

/-- Reads an item that is marked `unsafe` and is no function. -/
def unsafeItem (v : Visibility) : Reader (Option (List Piece)) := do
  if ← seesTrait then return some (v.pieces ++ (← g.traitItem))
  else if ← seesWords "unsafe" ["impl"] then g.implItem v
  else
    let _ ← keyword "unsafe"
    if ← seesWord "extern" then
      let _ ← g.foreignItem
    else
      let _ ← g.moduleItem
    return none

def externItem (v : Visibility) : Reader (Option (List Piece)) := do
  if ← seesWords "extern" ["crate"] then return some (v.pieces ++ (← externCrate))
  else
    require (v == .inherited)
    return some (← g.foreignItem)

def itemUnder (v : Visibility) : Reader (Option (List Piece)) := do
  let behind := fun (pieces : List Piece) => v.pieces ++ pieces
  -- A function may begin with `const`, `unsafe` or `extern`, so it is looked for before these.
  if ← seesSignature then return (← g.fnItem).map behind
  else if ← seesWord "extern" then g.externItem v
  else if ← seesWord "use" then return (← g.useItem).map behind
  else if ← seesWord "static" then return (← g.staticItem).map behind
  else if ← seesWord "const" then return (← g.constantItem).map behind
  else if ← seesWord "unsafe" then g.unsafeItem v
  else if ← seesWord "mod" then return some (behind (← g.moduleItem))
  else if ← seesWord "type" then return (← g.typeItem true).map behind
  else if ← seesWord "struct" then
    return some (behind (← inOrder [wordOf "struct", namePiece, g.optParams, g.structBodyPieces]))
  else if ← seesWord "enum" then
    return some (behind (← inOrder [wordOf "enum", namePiece, g.optParams, g.optConditions,
      g.variants]))
  else if ← seesUnion then
    return some (behind (← inOrder [wordOf "union", namePiece, g.optParams, g.unionBody]))
  else if ← seesTrait then return some (behind (← g.traitItem))
  else if (← seesWord "impl") || (← seesDefault) then g.implItem v
  else if ← seesWord "macro" then return some (behind (← macroDefinition))
  else
    require (v == .inherited)
    require (← seesMacroPath)
    return some (← macroItem)

def itemBody : Reader (Option (List Piece)) := do
  g.itemUnder (← visibility)

def anyItem : Reader (List Piece) := attributed g.itemBody

end StagedBuilder.Grammar
