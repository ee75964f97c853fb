/-!
# Entries in the order they were made

A finite map from text, kept as the list of its entries.  Giving a known key a
new value leaves the key where it is; a new key comes last.
-/

namespace PaneLayout

/-- Values under text keys, in the order in which the keys first appeared. -/
abbrev Entries (α : Type) := List (String × α)

namespace Entries

variable {α : Type}

/-- The value under a key. -/
def get? (key : String) : Entries α → Option α
  | [] => none
  | (other, value) :: rest => if other = key then some value else get? key rest

/-- The entries after a key has been given a value. -/
def put (key : String) (value : α) : Entries α → Entries α
  | [] => [(key, value)]
  | (other, old) :: rest =>
      if other = key then
        (other, value) :: rest
      else
        (other, old) :: put key value rest

/-- The entries after several more have been put in turn. -/
def putAll (known additions : Entries α) : Entries α :=
  additions.foldl (fun entries (key, value) => put key value entries) known

/-- Entries with unique keys from a list in which later ones win. -/
def ofList (additions : Entries α) : Entries α :=
  putAll [] additions

/-- The keys in order. -/
def keys (entries : Entries α) : List String :=
  entries.map Prod.fst

/-- Puts an entry before the first one whose key is not less. -/
def insertByKey (entry : String × α) : Entries α → Entries α
  | [] => [entry]
  | other :: rest =>
      if entry.1 ≤ other.1 then
        entry :: other :: rest
      else
        other :: insertByKey entry rest

/-- The entries in the order of their keys.  Those with one key keep theirs. -/
def sortByKey (entries : Entries α) : Entries α :=
  entries.foldr insertByKey []

end Entries

end PaneLayout
