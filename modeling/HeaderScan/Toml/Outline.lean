import HeaderScan.Toml.Section

/-!
# Outlines

The sections of a document, put together, make one table. Its outline is what is
met when the entries of that table are visited in order: the entries of its own,
and a group for each key below which there are further sections. Sections that do
not fit together show up where the visit meets them.
-/

namespace HeaderScan.Toml

/-- What a visit meets. -/
inductive Event where
  /-- A value under a key. -/
  | value (key : String) (value : Value)
  /-- Sections below a key: one table, or an array of them. -/
  | group (key : String) (isArray : Bool)
  /-- A section that does not fit, below these keys. -/
  | misfit (fault : Fault) (keys : List String)

namespace Outline

/-- A table that is being visited. -/
structure Frame where
  /-- How many keys lead to the table. -/
  depth : Nat
  /-- A section of the table. -/
  parent : Nat
  /-- The first section that has not been looked at. -/
  next : Nat
  /-- The first section that no longer belongs to the table. -/
  limit : Nat

/-- What was met, and the sections whose entries have been. -/
structure Visit where
  /-- What was met, in order. -/
  events : List Event
  /-- The sections whose entries have been met. -/
  visited : List Nat

/-- The misfit at the end of a visit, if it ended with one. -/
def Visit.misfit? (visit : Visit) : Option (Fault × List String) :=
  match visit.events.getLast? with
  | some (.misfit fault keys) => some (fault, keys)
  | _ => none

variable (sections : Array Section)

/-- The header of a section. -/
def headerOf (index : Nat) : List String := (sections[index]?.map Section.header).getD []

/-- The offset of a section. -/
def offsetOf (index : Nat) : Nat := (sections[index]?.map Section.offset).getD 0

/-- The section is an element of an array. -/
def isElement (index : Nat) : Bool := sections[index]?.any Section.isElement

/-- The first section from one to before another for which a condition holds. -/
def findFrom (first limit : Nat) (condition : Nat → Bool) : Option Nat :=
  (List.range' first (limit - first)).find? condition

/-- The next section of a table whose entries have not been met. -/
def nextSection? (frame : Frame) (visited : List Nat) : Option Nat :=
  let path := (headerOf sections frame.parent).take frame.depth
  findFrom frame.next frame.limit fun index =>
    path.isPrefixOf (headerOf sections index) && !visited.contains index

/-- A visit that ends at a section which does not fit. -/
def endAt (index : Nat) (cause : Cause) (visited : List Nat) : Visit :=
  ⟨[.misfit ⟨offsetOf sections index, cause⟩ []], visited⟩

/-- Put a group in front of what follows it, unless the visit of the group ended
with a misfit. -/
def afterGroup (key : String) (isArray : Bool) (inner : Visit) (rest : List Nat → Visit) :
    Visit :=
  match inner.misfit? with
  | some (fault, keys) => ⟨[.group key isArray, .misfit fault (key :: keys)], inner.visited⟩
  | none =>
    let rest := rest inner.visited
    { rest with events := .group key isArray :: rest.events }

mutual

/-- Visit the entries of a table, within so many steps. -/
def visitTable (frame : Frame) (visited : List Nat) : Nat → Visit
  | 0 => ⟨[], visited⟩
  | fuel + 1 =>
    if frame.parent = frame.limit then ⟨[], visited⟩
    else
      match nextSection? sections frame visited with
      | none => ⟨[], visited⟩
      | some index =>
        let header := headerOf sections index
        let parentHeader := headerOf sections frame.parent
        if frame.parent ≠ index ∧ parentHeader = header then
          endAt sections index (.duplicateTable (".".intercalate header)) visited
        else
          let parent := if header.length < parentHeader.length then index else frame.parent
          match header[frame.depth]? with
          | some key =>
            let isArray := isElement sections index && frame.depth + 1 == header.length
            let inner :=
              if isArray then visitElements frame.depth index frame.limit visited fuel
              else visitTable ⟨frame.depth + 1, index, 0, frame.limit⟩ visited fuel
            afterGroup key isArray inner fun visited =>
              visitTable { frame with parent, next := index + 1 } visited fuel
          | none =>
            if isElement sections index then endAt sections index .tableRedefinedAsArray visited
            else
              let entries := (sections[index]?.map Section.entries).getD []
              let rest := visitTable { frame with parent, next := index } (index :: visited) fuel
              let values := entries.map fun (key, value) => .value key value
              { rest with events := values ++ rest.events }

/-- Visit the elements of an array of tables from this one on, within so many steps. -/
def visitElements (depth element limit : Nat) (visited : List Nat) : Nat → Visit
  | 0 => ⟨[], visited⟩
  | fuel + 1 =>
    let next := (findFrom (element + 1) limit fun index =>
      isElement sections index && headerOf sections index == headerOf sections element).getD limit
    let inner := visitTable ⟨depth + 1, element, 0, next⟩ (element :: visited) fuel
    if inner.misfit?.isSome || next = limit then inner
    else visitElements depth next limit inner.visited fuel

end

/-- More steps than any visit of these sections takes. -/
def steps : Nat :=
  let deepest := (sections.toList.map (·.header.length)).foldl max 0
  (3 * sections.size + 4) * (deepest + 3)

end Outline

/-- What is met when the table of a document is visited. -/
def outline (sections : List Section) : List Event :=
  let sections := sections.toArray
  (Outline.visitTable sections ⟨0, 0, 0, sections.size⟩ [] (Outline.steps sections)).events

end HeaderScan.Toml
