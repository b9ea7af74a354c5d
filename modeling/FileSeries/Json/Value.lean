import FileSeries.Json.Token
/-!
JSON values. A value is built from its tokens one after the other; what is open at a token is kept
on a stack of frames.
-/

namespace FileSeries.Json

/-- A value. Records keep their fields in order, with all repetitions. -/
inductive Value where
  | null
  | bool (b : Bool)
  | number (n : Option Int)
  | string (s : Option (List Char))
  | list (items : List Value)
  | record (fields : List (Option (List Char) × Value))

/-- A field of a record. -/
abbrev Field := Option (List Char) × Value

/-- A list or record that waits for a value; what it holds so far comes newest first. -/
inductive Frame where
  | list (done : List Value)
  | record (done : List Field) (key : Option (List Char))

/-- What may come next. -/
inductive Awaiting where
  | value
  | firstItem
  | nextItem (done : List Value)
  | firstKey
  | key (done : List Field)
  | colon (done : List Field) (key : Option (List Char))
  | nextField (done : List Field)

/-- The state between two tokens. -/
inductive State where
  | reading (awaiting : Awaiting) (frames : List Frame)
  | finished (v : Value)

/-- The state after a value is complete. -/
def settle (v : Value) : List Frame → State
  | [] => .finished v
  | .list done :: frames => .reading (.nextItem (v :: done)) frames
  | .record done key :: frames => .reading (.nextField ((key, v) :: done)) frames

/-- The state after the first token of a value. -/
def startValue (frames : List Frame) : Token → Option State
  | .null => some (settle .null frames)
  | .bool b => some (settle (.bool b) frames)
  | .number n => some (settle (.number n) frames)
  | .string s => some (settle (.string s) frames)
  | .openList => some (.reading .firstItem frames)
  | .openRecord => some (.reading .firstKey frames)
  | .closeList | .closeRecord | .colon | .comma => none

/-- The state after a token; none if the token may not come here. -/
def step (s : State) (t : Token) : Option State :=
  match s with
  | .finished _ => none
  | .reading awaiting frames =>
    match awaiting, t with
    | .value, t => startValue frames t
    | .firstItem, .closeList => some (settle (.list []) frames)
    | .firstItem, t => startValue (.list [] :: frames) t
    | .nextItem done, .comma => some (.reading .value (.list done :: frames))
    | .nextItem done, .closeList => some (settle (.list done.reverse) frames)
    | .firstKey, .closeRecord => some (settle (.record []) frames)
    | .firstKey, .string key => some (.reading (.colon [] key) frames)
    | .key done, .string key => some (.reading (.colon done key) frames)
    | .colon done key, .colon => some (.reading .value (.record done key :: frames))
    | .nextField done, .comma => some (.reading (.key done) frames)
    | .nextField done, .closeRecord => some (settle (.record done.reverse) frames)
    | _, _ => none

/-- The value of a text. -/
def parse? (text : List Char) : Option Value := do
  match ← (← tokens text).foldlM step (.reading .value []) with
  | .finished v => return v
  | .reading .. => none

namespace Value

def bool? : Value → Option Bool
  | bool b => some b
  | _ => none

def string? : Value → Option String
  | string s => s.map String.ofList
  | _ => none

def list? : Value → Option (List Value)
  | list items => some items
  | _ => none

/-- An integer between two ends. -/
def integer? (low high : Int) : Value → Option Int
  | number (some n) => if low ≤ n && n ≤ high then some n else none
  | _ => none

/-- The values of named fields. A record gives them by name; it may have other fields, but every key
is a text and no name comes twice. A list gives them by position. -/
def members? (names : List String) : Value → Option (List (Option Value))
  | record fields => do
    let fields ← fields.mapM fun (key, v) => key.map fun key => (String.ofList key, v)
    if names.any fun name => (fields.filter fun (key, _) => key == name).length > 1 then none
    else some (names.map fun name => fields.lookup name)
  | list items =>
    if items.length ≤ names.length then some ((List.range names.length).map (items[·]?)) else none
  | _ => none

end Value

end FileSeries.Json
