import StaticSite.Toml.Node
import StaticSite.Toml.Scalar

/-!
# TOML documents

A reader for TOML 1.0. A document is a sequence of lines, each blank, a header or a key with a
value; values are added to the table that the last header names. Keys of more than `depthLimit`
parts and values inside more than `depthLimit` arrays and tables are refused.
-/

namespace StaticSite.Toml

mutual

/-- A value at the front. `depth` counts the arrays and tables around it. -/
def readValue (depth : Nat) : Nat → List Char → Option (Value × List Char)
  | 0, _ => none
  | fuel + 1, s =>
    match s with
    | '[' :: rest =>
      if depth < depthLimit then
        (readItems (depth + 1) fuel (skipLines rest.length rest)).map fun r => (.array r.1, r.2)
      else none
    | '\x7b' :: rest =>
      if depth < depthLimit then
        match skipBlanks rest with
        | '\x7d' :: rest => some (.table [], rest)
        | rest =>
          (readEntries (depth + 1) fuel [] rest).map fun r =>
            (.table (Node.entriesToValue r.1), r.2)
      else none
    | s => readScalar s

/-- The items of an array up to its closing bracket; a comma may follow the last. -/
def readItems (depth : Nat) : Nat → List Char → Option (List Value × List Char)
  | 0, _ => none
  | fuel + 1, s =>
    match s with
    | ']' :: rest => some ([], rest)
    | s =>
      match readValue depth fuel s with
      | none => none
      | some (v, rest) =>
        match skipLines rest.length rest with
        | ',' :: rest =>
          (readItems depth fuel (skipLines rest.length rest)).map fun r => (v :: r.1, r.2)
        | ']' :: rest => some ([v], rest)
        | _ => none

/-- The entries of an inline table up to its closing brace, on top of those read before. -/
def readEntries (depth : Nat) : Nat → List (String × Node) → List Char →
    Option (List (String × Node) × List Char)
  | 0, _, _ => none
  | fuel + 1, entries, s =>
    match readKeys s.length s with
    | some (first :: others, '=' :: rest) =>
      if depthLimit < (first :: others).length then none
      else
        match readValue depth fuel (skipBlanks rest) with
        | none => none
        | some (v, rest) =>
          let path := (first :: others).dropLast
          let key := (first :: others).getLast (List.cons_ne_nil _ _)
          match Node.addAt entries key v path with
          | none => none
          | some entries =>
            match skipBlanks rest with
            | ',' :: rest => readEntries depth fuel entries (skipBlanks rest)
            | '\x7d' :: rest => some (entries, rest)
            | _ => none
    | _ => none

end

/-- A document that is being read: its entries, and the path of the table that lines add to. -/
structure Draft where
  entries : List (String × Node) := []
  current : List String := []

/-- A line with a key and a value. -/
def readKeyLine (d : Draft) (s : List Char) : Option (Draft × List Char) :=
  match readKeys s.length s with
  | some (first :: others, '=' :: rest) =>
    if depthLimit < (first :: others).length then none
    else
      match readValue 0 (2 * rest.length + 2) (skipBlanks rest) with
      | none => none
      | some (v, rest) =>
        let path := (first :: others).dropLast
        let key := (first :: others).getLast (List.cons_ne_nil _ _)
        match Node.changeAt (fun entries => Node.addAt entries key v path) d.entries d.current,
            finishLine rest with
        | some entries, some rest => some ({ d with entries }, rest)
        | _, _ => none
  | _ => none

/-- A header after its opening brackets; `close` takes away the closing ones. -/
def readHeader (change : List (String × Node) → String → List String →
      Option (List (String × Node)))
    (close : List Char → Option (List Char)) (d : Draft) (s : List Char) :
    Option (Draft × List Char) :=
  match readKeys s.length s with
  | some (first :: others, rest) =>
    if depthLimit < (first :: others).length then none
    else
      match change d.entries first others, (close rest).bind finishLine with
      | some entries, some rest => some ({ entries, current := first :: others }, rest)
      | _, _ => none
  | _ => none

/-- One line of a document, without the blanks at its front. -/
def readLine (d : Draft) (s : List Char) : Option (Draft × List Char) :=
  match s with
  | '[' :: '[' :: rest =>
    readHeader Node.beginTable (fun s => (expect ']' s).bind (expect ']')) d rest
  | '[' :: rest => readHeader Node.defineTable (expect ']') d rest
  | '#' :: _ => (finishLine s).map fun rest => (d, rest)
  | s =>
    match lineEnd? s with
    | some rest => some (d, rest)
    | none => readKeyLine d s

/-- The lines of a document up to its end. -/
def readLines : Nat → Draft → List Char → Option Draft
  | 0, _, _ => none
  | fuel + 1, d, s =>
    match skipBlanks s with
    | [] => some d
    | s =>
      match readLine d s with
      | some (d, rest) => readLines fuel d rest
      | none => none

/-- The table that a document is. A byte order mark at its front is skipped. -/
def parse? (text : String) : Option Value :=
  let chars := match text.toList with
    | '\ufeff' :: rest => rest
    | chars => chars
  (readLines (chars.length + 1) {} chars).map fun d => .table (Node.entriesToValue d.entries)

end StaticSite.Toml
