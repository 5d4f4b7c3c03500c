import Esp3Host.Toml.Value

/-!
# Putting tables together

Keys and headers are paths through tables.  A table may be entered again only where that cannot
change what was written before: no key twice, no table under two headers, and no dotted key into a
table that has a header.  `insert` places one key, `insertTable` and `appendTable` place what stands
under a header.
-/

namespace Esp3Host.Toml

structure Path where
  parents : List Key
  last : Key
  deriving DecidableEq, Repr

abbrev Body := List (Path × Located Value)

def Body.placeAfter (header : Stretch) (body : Body) : Stretch :=
  body.foldl (fun place pair => (pair.2.place.map place.cover).getD place) header

namespace Entries

def find? (entries : Entries) (key : Key) : Option (Located Value) :=
  (List.find? (fun entry => entry.1.name == key.name) entries).map Prod.snd

def replace (entries : Entries) (key : Key) (value : Located Value) : Entries :=
  entries.map fun entry => if entry.1.name = key.name then (entry.1, value) else entry

def erase (entries : Entries) (key : Key) : Entries :=
  entries.filter fun entry => entry.1.name ≠ key.name

def append (entries : Entries) (key : Key) (value : Located Value) : Entries :=
  entries ++ [(key, value)]

def alterLast (change : Entries → Option Entries) (tables : List (Located Entries)) :
    Option Value :=
  match tables.getLast? with
  | none => none
  | some last => do
      let last' ← change last.value
      return .tables (tables.dropLast ++ [{ last with value := last' }])

/--
Place a value behind a dotted key.  The tables on its way may not have been complete before, and the
last of them must be one that dotted keys have made.
-/
def insertAt (key : Key) (value : Located Value) : List Key → Entries → Option Entries
  | [], entries =>
      if (entries.find? key).isSome then none else some (entries.append key value)
  | name :: path, entries =>
      match entries.find? name with
      | none => do
          let inner ← insertAt key value path []
          return entries.append name ⟨.table .dotted inner, none⟩
      | some ⟨.table origin inner, place⟩ =>
          if origin = .dotted ∨ (origin = .implied ∧ path ≠ []) then do
            let inner' ← insertAt key value path inner
            return entries.replace name ⟨.table origin inner', place⟩
          else none
      | some ⟨.tables tables, place⟩ =>
          if path = [] then none
          else do
            let tables' ← alterLast (insertAt key value path) tables
            return entries.replace name ⟨tables', place⟩
      | some _ => none

def insert (entries : Entries) (path : Path) (value : Located Value) : Option Entries :=
  insertAt path.last value path.parents entries

def insertAll (entries : Entries) (body : Body) : Option Entries :=
  body.foldlM (fun entries pair => entries.insert pair.1 pair.2) entries

/--
Change the table behind a path of headers.  Tables that are not there yet are made, and of an array
of tables the last one is meant.
-/
def alter (change : Entries → Option Entries) : List Key → Entries → Option Entries
  | [], entries => change entries
  | name :: path, entries =>
      match entries.find? name with
      | none => do
          let inner ← alter change path []
          return entries.append name ⟨.table .implied inner, none⟩
      | some ⟨.table .braces _, _⟩ => none
      | some ⟨.table origin inner, place⟩ => do
          let inner' ← alter change path inner
          return entries.replace name ⟨.table origin inner', place⟩
      | some ⟨.tables tables, place⟩ => do
          let tables' ← alterLast (alter change path) tables
          return entries.replace name ⟨tables', place⟩
      | some _ => none

/--
Place a table with its own header.  A table that was only implied so far keeps what it has, and
comes behind what its parent has by now.
-/
def insertTable (entries : Entries) (path : Path) (header : Stretch) (body : Body) :
    Option Entries :=
  let place := body.placeAfter header
  alter (fun parent =>
    match parent.find? path.last with
    | none => do
        return parent.append path.last ⟨.table .header (← insertAll [] body), some place⟩
    | some ⟨.table .implied inner, _⟩ => do
        return (parent.erase path.last).append path.last
          ⟨.table .header (← insertAll inner body), some place⟩
    | some _ => none) path.parents entries

def appendTable (entries : Entries) (path : Path) (header : Stretch) (body : Body) :
    Option Entries :=
  let place := body.placeAfter header
  alter (fun parent => do
    let table : Located Entries := ⟨← insertAll [] body, some place⟩
    match parent.find? path.last with
    | none => return parent.append path.last ⟨.tables [table], some place⟩
    | some ⟨.tables tables, first⟩ =>
        return parent.replace path.last
          ⟨.tables (tables ++ [table]), first.map fun first => first.cover place⟩
    | some _ => none) path.parents entries

end Entries

end Esp3Host.Toml
