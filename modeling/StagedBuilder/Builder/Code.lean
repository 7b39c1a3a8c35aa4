import StagedBuilder.Builder.Expansion
import StagedBuilder.Item.Code
import StagedBuilder.Item.Pieces
import StagedBuilder.Text.Quoted

/-!
# The builder as code

The text of every item of the module, and of what stands before and after the module.
-/

namespace StagedBuilder

open Code

/-! ## Parts of the struct -/

namespace Visibility

def code (v : Visibility) : Code := Piece.codeAll v.pieces

/-- The visibility of the builder inside its module: the struct's own module has to see it. -/
def innerCode : Visibility → Code
  | isPublic => words "pub"
  | inherited => .word "pub" :: parens (words "super")
  | _ => .word "pub" :: parens (words "crate")

end Visibility

def GenericParam.code (p : GenericParam) : Code := Piece.codeAll p.pieces

def WherePredicate.code (p : WherePredicate) : Code := Piece.codeAll p.pieces

/-! ## Parts of the builder -/

def attrCode (inner : Code) : Code := .word "#" :: brackets inner

/-- Says that a value must not be thrown away unnoticed. -/
def mustUse : Code := attrCode (words "must_use")

namespace Doc

/-- A line as it is written is a raw string; a computed one is escaped. -/
def code : Doc → Code
  | line text => attrCode (words "doc =" ++ [.word ("r\"" ++ text ++ "\"")])
  | computed text => attrCode (words "doc =" ++ [.word (Text.stringLiteral text)])

end Doc

namespace BuilderArgs

/-- The arguments between angle brackets, a comma after each. -/
def code (a : BuilderArgs) : Code := angles (closed (a.toList.map fun n => [.word n]))

end BuilderArgs

namespace InitialValue

def code : InitialValue → Code
  | absent => words ":: core :: option :: Option :: None"
  | ofType => words ":: core :: default :: Default :: default" ++ parens []
  | expression tokens => TokenTree.codeAll tokens

end InitialValue

namespace ImplHead

def binders (h : ImplHead) : Code :=
  angles (closed (h.params.map GenericParam.code) ++ closed (h.states.map fun n => [.word n]))

def conditions (h : ImplHead) : Code :=
  .word "where" :: closed (h.predicates.map WherePredicate.code) ++
    closed (h.defaults.map fun t => t.code ++ words ": :: core :: default :: Default")

end ImplHead

namespace Parameter

def typeCode (p : Parameter) : Code :=
  if p.into then words "impl :: core :: convert :: Into" ++ angles p.ty.code else p.ty.code

end Parameter

/-- The place of a field in the storage. -/
def fieldPlace (field : Ident) : Code :=
  words ":: core :: ptr :: addr_of_mut !" ++
    parens (parens (words "* inner") ++ .word "." :: field.code)

/-- Binds `inner` to the storage of the builder called `owner`. -/
def bindInner (owner : String) : Code :=
  words "let inner =" ++ words owner ++ words ". inner . as_mut_ptr" ++ parens [] ++ words ";"

/-- Writes `value` to a field without looking at what was there. -/
def writeValue (field : Ident) : Code :=
  fieldPlace field ++ words ". write" ++ parens (words "value") ++ words ";"

namespace Initializer

/-- A block that makes the value and writes it to its field. -/
def code (i : Initializer) : Code :=
  braces (words "let value :" ++ i.ty.code ++ words "=" ++ i.value.code ++ words ";" ++
    bindInner "__builder" ++ words "unsafe" ++ braces (writeValue i.field))

end Initializer

namespace Blueprint

variable (b : Blueprint)

/-- The struct with its arguments, the last bracket given. -/
def structCode (close : String) : Code :=
  b.name.code ++ .word "<" :: closed (b.paramNames.map fun n => [.word n]) ++ words close

def builderCode (args : BuilderArgs) : Code := words b.builderName ++ args.code

def storageCode : Code := words ":: core :: mem :: MaybeUninit <" ++ b.structCode ">>"

def newBuilder (inner : Code) : Code :=
  words b.builderName ++
    braces (words "inner :" ++ inner ++ words ", __fields : :: core :: marker :: PhantomData ,")

/-- What a setter stores, made from `value`. -/
def storedCode (into wrap : Bool) : Code :=
  let converted :=
    if into then words ":: core :: convert :: Into :: into" ++ parens (words "value")
    else words "value"
  if wrap then words ":: core :: option :: Option :: Some" ++ parens converted else converted

def bodyCode : Body → Code
  | .start initializers =>
    let mutability := if initializers.isEmpty then [] else words "mut"
    words "let" ++ mutability ++ words "__builder =" ++
      b.newBuilder (words ":: core :: mem :: MaybeUninit :: uninit" ++ parens []) ++ words ";" ++
      initializers.flatMap Initializer.code ++ words "__builder"
  | .store field into wrap dropOld =>
    let store :=
      if dropOld then words "*" ++ fieldPlace field ++ words "= value ;" else writeValue field
    words "let value =" ++ storedCode into wrap ++ words ";" ++ bindInner "self" ++
      words "unsafe" ++ braces store ++ b.newBuilder (words "self . inner")
  | .pointer field => bindInner "self" ++ words "unsafe" ++ braces (fieldPlace field)
  | .release => words "self . inner"
  | .assumeInit => words "unsafe" ++ braces (words "self . inner . assume_init" ++ parens [])
  | .finish => words "unsafe" ++ braces (words "self . unsafe_build" ++ parens [])

def outputCode : Output → Code
  | .self => words "Self"
  | .builder args => b.builderCode args
  | .struct => b.structCode ">"
  | .storage => b.storageCode
  | .pointer ty => words "* mut" ++ ty.code

def parametersCode (m : Method) : Code :=
  let receiver := match m.receiver with
    | .nothing => []
    | .owned => words "self"
    | .ownedMut => words "mut self"
    | .borrowedMut => words "& mut self"
  match m.parameter with
  | none => receiver
  | some p => receiver ++ words ", value :" ++ p.typeCode

def methodCode (m : Method) : Code :=
  m.docs.flatMap Doc.code ++ mustUse ++
    words (if m.isUnsafe then "pub unsafe fn" else "pub fn") ++ m.name.code ++
    parens (parametersCode m) ++ words "->" ++ b.outputCode m.output ++ braces (b.bodyCode m.body)

def builderDoc : String :=
  s!"Type-checked builder for [`{b.name.text}`]. " ++
    "Each field's state is tracked in a type parameter, " ++
    "so `build()` only exists once every required field has been set."

def itemCode : ModuleItem → Code
  | .imports => words "use super :: * ;"
  | .builderStruct head =>
    (Doc.computed b.builderDoc).code ++ mustUse ++
      attrCode (words "repr" ++ parens (words "transparent")) ++ b.visibility.innerCode ++
      words "struct" ++ words b.builderName ++ head.binders ++ head.conditions ++
      braces (words "inner :" ++ b.storageCode ++
        words ", __fields : :: core :: marker :: PhantomData <" ++
        parens (closed (head.states.map fun n => [.word n])) ++ words "> ,")
  | .marker name => words "pub struct" ++ words name ++ words ";"
  | .ofBuilder i =>
    words "impl" ++ i.head.binders ++ b.builderCode i.args ++ i.head.conditions ++
      braces (i.methods.flatMap b.methodCode)
  | .ofStruct i =>
    words "impl" ++ i.head.binders ++ words ":: kbuilder :: Buildable for" ++ b.structCode ">" ++
      i.head.conditions ++
      braces (words "type Builder =" ++ b.builderCode i.builder ++ words "; fn builder" ++
        parens [] ++ words "-> Self :: Builder" ++
        braces (words b.builderName ++ words "::" ++ i.builder.code ++ words ":: builder" ++
          parens []))

/-- What stands before the braces of the module. -/
def moduleHead : Code :=
  attrCode (words "allow" ++ parens (words "non_snake_case , non_camel_case_types")) ++
    attrCode (words "deny" ++ parens (words "unused_must_use")) ++
    words "mod" ++ words b.moduleName

/-- What stands after the module: the builder is named where the struct is. -/
def reexport : Code :=
  attrCode (words "allow" ++ parens (words "unused_imports")) ++ b.visibility.code ++
    words "use self ::" ++ words b.moduleName ++ words "::" ++ words b.builderName ++ words ";"

/-- The text of the expansion: what stands before the module, its items, and what stands after
it. -/
def expansionText : String × List String × String :=
  (b.moduleHead.text, b.moduleItems.map fun i => (b.itemCode i).text, b.reexport.text)

end Blueprint

end StagedBuilder
