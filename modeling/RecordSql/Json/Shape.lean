import RecordSql.Json.Reader

/-!
Reading JSON text of a known shape. A structure may be written as an object, in
which members that are not its own are skimmed and no member of its own may
come twice, or as an array of its members in order, in which the last ones may
be left out. A reader takes the nesting that is left to it and a text, and
gives what it read and the rest of the text.
-/

namespace RecordSql.Json

abbrev Shape (Item : Type) := (nesting : Nat) → List Char → Option (Item × List Char)

/-- One member of a structure that is being put together. -/
structure Member (Draft : Type) where
  name : String
  isSet : Draft → Bool
  read : Draft → Shape Draft

namespace Shape

variable {Item Draft : Type}

def text : Shape String := fun _ text =>
  match skipSpace text with
  | '"' :: rest => readQuoted .full rest
  | _ => none

def anything : Shape Json := fun nesting text => readValue .full nesting text

/-- The items up to the end of an array. `limit` bounds their number. -/
def readItemsUpTo (item : Shape Item) :
    (limit : Nat) → List Item → Shape (List Item)
  | 0, _, _, _ => none
  | limit + 1, done, nesting, text =>
      match item nesting text with
      | none => none
      | some (next, rest) =>
          match afterElement? ']' rest with
          | none => none
          | some (.closed rest) => some ((next :: done).reverse, rest)
          | some (.more rest) => readItemsUpTo item limit (next :: done) nesting rest

def list (item : Shape Item) : Shape (List Item) := fun nesting text => do
  match skipSpace text with
  | '[' :: rest =>
      let nesting ← deeper? .full nesting
      match skipSpace rest with
      | ']' :: rest => some ([], rest)
      | rest => readItemsUpTo item (rest.length + 1) [] nesting rest
  | _ => none

/-- The members of an object up to its end. `limit` bounds their number. -/
def readMembersUpTo (members : List (Member Draft)) :
    (limit : Nat) → Draft → Shape Draft
  | 0, _, _, _ => none
  | limit + 1, draft, nesting, text => do
      let (name, text) ← readName .full text
      let (draft, rest) ←
        match members.find? fun member => member.name == name with
        | some member => if member.isSet draft then none else member.read draft nesting text
        | none => (readValue .skim nesting text).map fun (_, rest) => (draft, rest)
      match ← afterElement? '\x7d' rest with
      | .closed rest => some (draft, rest)
      | .more rest => readMembersUpTo members limit draft nesting rest

/-- The members of a structure in order, up to the end of an array. -/
def readInOrder : List (Member Draft) → Draft → Shape Draft
  | [], _, _, _ => none
  | member :: later, draft, nesting, text => do
      let (draft, rest) ← member.read draft nesting text
      match ← afterElement? ']' rest with
      | .closed rest => some (draft, rest)
      | .more rest => readInOrder later draft nesting rest

def readStructure (members : List (Member Draft)) (start : Draft) : Shape Draft :=
  fun nesting text => do
    match skipSpace text with
    | '\x7b' :: rest =>
        let nesting ← deeper? .full nesting
        match skipSpace rest with
        | '\x7d' :: rest => some (start, rest)
        | rest => readMembersUpTo members (rest.length + 1) start nesting rest
    | '[' :: rest =>
        let nesting ← deeper? .full nesting
        match skipSpace rest with
        | ']' :: rest => some (start, rest)
        | rest => readInOrder members start nesting rest
    | _ => none

/-- A structure; `finish` refuses a draft that lacks a member. -/
def ofMembers (members : List (Member Draft)) (start : Draft)
    (finish : Draft → Option Item) : Shape Item := fun nesting text => do
  let (draft, rest) ← readStructure members start nesting text
  (finish draft).map fun item => (item, rest)

/-- Reads a text that is one value of a shape, with white space around it. -/
def read? (shape : Shape Item) (text : String) : Option Item := do
  let (item, rest) ← shape nestingLimit text.toList
  if (skipSpace rest).isEmpty then some item else none

end Shape

/-- A member whose place in the draft holds what was read of it. -/
def Member.of {Item Draft : Type} (name : String) (shape : Shape Item)
    (held : Draft → Option Item) (hold : Draft → Item → Draft) : Member Draft where
  name := name
  isSet := fun draft => (held draft).isSome
  read := fun draft nesting text =>
    (shape nesting text).map fun (item, rest) => (hold draft item, rest)

end RecordSql.Json
