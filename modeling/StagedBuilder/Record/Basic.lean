import StagedBuilder.Record.Orc
import StagedBuilder.Record.Hobbit
import StagedBuilder.Record.Address
import StagedBuilder.Record.Halfling

/-!
# All records

The records of every type under one roof, to be made, shown and compared together.
-/

namespace StagedBuilder

/-- The types of records. -/
inductive RecordType where
  | orc
  | hobbit
  | address
  | halfling
deriving DecidableEq, Repr

/-- A record. -/
inductive Record where
  | orc (o : Orc)
  | hobbit (h : Hobbit)
  | address (a : Address)
  | halfling (h : Halfling)
deriving DecidableEq, Repr

/-- The ways to make a record. -/
inductive Making where
  /-- By its builder, started from that side. -/
  | builder (route : Route)
  /-- By its constructor. -/
  | constructor
  /-- By its builder, and then as a copy. -/
  | copy
  /-- By writes through the pointers of its builder. -/
  | pointers
deriving DecidableEq, Repr

namespace Record

/-- Makes a record of the values listed with the names of its fields. Only orcs have a
constructor, copies, and pointers that are used. -/
def make? (type : RecordType) (how : Making) (entries : List (String × Value)) : Option Record :=
  match type, how with
  | .orc, .builder route => (Orc.build? route entries).map orc
  | .orc, .copy => (Orc.build? .inherent entries).map orc
  | .orc, .constructor => (Orc.new? entries).map orc
  | .orc, .pointers => (Orc.buildThroughPointers? entries).map orc
  | .hobbit, .builder route => (Hobbit.build? route entries).map hobbit
  | .address, .builder route => (Address.build? route entries).map address
  | .halfling, .builder route => (Halfling.build? route entries).map halfling
  | _, _ => none

/-- The record as its users are shown it, if it is meant for them. -/
def display? : Record → Option String
  | orc o => some o.display
  | hobbit h => some h.display
  | address a => some a.display
  | halfling _ => none

/-- The record as a programmer is shown it. -/
def shown : Record → String
  | orc o => o.shown
  | hobbit h => h.shown
  | address a => a.shown
  | halfling h => h.shown

/-- The fields with their values. -/
def fields : Record → List (String × Value)
  | orc o => o.fields
  | hobbit h => h.fields
  | address a => a.fields
  | halfling h => h.fields

end Record

/-- The lines that show a type's builder at work. -/
def RecordType.sampleLines : RecordType → List String
  | orc => Orc.sampleLines
  | hobbit => Hobbit.sampleLines
  | address => Address.sampleLines
  | halfling => []

end StagedBuilder
