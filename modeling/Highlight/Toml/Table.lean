/-!
# TOML tables

A table comes to be in one of three ways: by a header, by being on the way to
the table of a header, or by being on the way to a dotted key. This decides what
may be added to it later.

- A header may take over a table that other headers have implied, and no other.
- A dotted key may add to a table that dotted keys have made; it may pass through
  one that headers have implied, if a further one lies between it and the key.
- A header in double brackets begins a new table at the end of an array of
  tables. Of such an array only the last table can be added to.

No key may be given twice in a table.
-/

namespace Highlight

set_option autoImplicit false

namespace Toml

/-- A value. Only strings and truth values are kept; of other values it is kept
that there is one. -/
inductive Value where
  | text (text : String)
  | truth (truth : Bool)
  | other
deriving DecidableEq

/-- How a table came to be. -/
inductive Origin where
  | header
  | implied
  | dotted
deriving DecidableEq

/-- What stands under a key. -/
inductive Node where
  | value (value : Value)
  | table (origin : Origin) (entries : List (String × Node))
  /-- An array of tables, of which the last is kept. -/
  | tables (last : List (String × Node))

/-- The keys of a table and what stands under them. -/
abbrev Entries := List (String × Node)

/-- What stands under a key. -/
def get? (key : String) : Entries → Option Node
  | [] => none
  | (k, node) :: rest => if k = key then some node else get? key rest

/-- The table with another node under a key. -/
def set (key : String) (node : Node) : Entries → Entries
  | [] => [(key, node)]
  | (k, old) :: rest => if k = key then (k, node) :: rest else (k, old) :: set key node rest

/-- The table with a value under a dotted key. -/
def put (entries : Entries) : List String → Value → Option Entries
  | [], _ => none
  | [key], value =>
      match get? key entries with
      | none => some (set key (.value value) entries)
      | some _ => none
  | key :: path, value =>
      let last := path.length = 1
      match get? key entries with
      | none => (put [] path value).map fun inner => set key (.table .dotted inner) entries
      | some (.table .dotted inner) =>
          (put inner path value).map fun inner => set key (.table .dotted inner) entries
      | some (.table .implied inner) =>
          if last then none
          else (put inner path value).map fun inner => set key (.table .implied inner) entries
      | some (.tables inner) =>
          if last then none
          else (put inner path value).map fun inner => set key (.tables inner) entries
      | some (.table .header _) => none
      | some (.value _) => none

/-- Changes the table at the end of a path. The tables on the way there that do
not exist yet are implied. -/
def update (change : Entries → Option Entries) (entries : Entries) : List String → Option Entries
  | [] => change entries
  | key :: path =>
      match get? key entries with
      | none => (update change [] path).map fun inner => set key (.table .implied inner) entries
      | some (.table origin inner) =>
          (update change inner path).map fun inner => set key (.table origin inner) entries
      | some (.tables inner) =>
          (update change inner path).map fun inner => set key (.tables inner) entries
      | some (.value _) => none

/-- The table with what a header announces under a key. -/
def announce (isArray : Bool) (key : String) (entries : Entries) : Option Entries :=
  match get? key entries, isArray with
  | none, true => some (set key (.tables []) entries)
  | none, false => some (set key (.table .header []) entries)
  | some (.tables _), true => some (set key (.tables []) entries)
  | some (.table .implied inner), false => some (set key (.table .header inner) entries)
  | _, _ => none

/-- The table with what a header announces at a path. -/
def addHeader (isArray : Bool) (path : List String) (entries : Entries) : Option Entries :=
  match path.getLast? with
  | none => none
  | some key => update (announce isArray key) entries path.dropLast

end Toml

end Highlight
