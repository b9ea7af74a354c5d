/-!
Globs: patterns of whole names. `?` stands for one character, `*` for any run of characters,
`[abc]`, `[a-z]` and `[!abc]` for one character in or outside a set, and `**` for whole path
components. All other characters stand for themselves.
-/

namespace FileSeries

namespace Glob

/-- An inclusive range of characters. -/
structure CharRange where
  low : Char
  high : Char
  deriving DecidableEq

def CharRange.has (r : CharRange) (c : Char) : Bool :=
  r.low.toNat ≤ c.toNat && c.toNat ≤ r.high.toNat

/-- One element of a glob. -/
inductive Token where
  | char (c : Char)
  | anyChar
  | anyRun
  | anyComponents
  | within (set : List CharRange)
  | outside (set : List CharRange)
  deriving DecidableEq

/-- What is wrong with the text of a glob. -/
inductive Defect where
  | tooManyStars
  | brokenComponents
  | brokenSet
  deriving DecidableEq

namespace Defect

def message : Defect → String
  | tooManyStars => "wildcards are either regular `*` or recursive `**`"
  | brokenComponents => "recursive wildcards must form a single path component"
  | brokenSet => "invalid range pattern"

end Defect

/-- A defect at a position, counted in characters. -/
structure Failure where
  position : Nat
  defect : Defect
  deriving DecidableEq

/-- The ranges of a set: `a-z` is a range, every other character stands alone. -/
def ranges : List Char → List CharRange
  | a :: '-' :: z :: rest => ⟨a, z⟩ :: ranges rest
  | a :: rest => ⟨a, a⟩ :: ranges rest
  | [] => []

/-- The characters of a set and its closing bracket: the set has at least one character, which may
be a bracket itself. -/
def cutSet : List Char → Option (List Char × List Char)
  | [] => none
  | c :: rest =>
    match rest.dropWhile (· != ']') with
    | [] => none
    | _ :: after => some (c :: rest.takeWhile (· != ']'), after)

/-- Reads the set after an opening bracket; gives the text after it too. -/
def readSet : List Char → Option (Token × List Char)
  | '!' :: rest => (cutSet rest).map fun (set, after) => (.outside (ranges set), after)
  | rest => (cutSet rest).map fun (set, after) => (.within (ranges set), after)

/-- Adds the token of `**`; a second one in a row adds nothing once two tokens are there. -/
def pushComponents (tokens : List Token) : List Token :=
  match tokens with
  | .anyComponents :: _ :: _ => tokens
  | _ => .anyComponents :: tokens

theorem length_of_cutSet {text set after : List Char} (h : cutSet text = some (set, after)) :
    after.length < text.length := by
  cases text with
  | nil => simp [cutSet] at h
  | cons c rest =>
    have hd := (List.dropWhile_sublist (l := rest) (· != ']')).length_le
    simp only [cutSet] at h
    split at h
    · simp at h
    · rename_i more hr
      simp only [Option.some.injEq, Prod.mk.injEq] at h
      rw [hr] at hd
      simp only [List.length_cons] at hd ⊢
      rw [← h.2]
      omega

theorem length_of_readSet {text after : List Char} {token : Token}
    (h : readSet text = some (token, after)) : after.length < text.length := by
  unfold readSet at h
  split at h
  · obtain ⟨⟨set, rest⟩, hs, he⟩ := Option.map_eq_some_iff.1 h
    have := length_of_cutSet hs
    simp_all
    omega
  · obtain ⟨⟨set, rest⟩, hs, he⟩ := Option.map_eq_some_iff.1 h
    have := length_of_cutSet hs
    simp_all

/-- Reads a glob from a place in its text: `position` counts the characters before it, `last` is the
character before it, and `tokens` has the tokens found so far, the newest first. -/
def readFrom (position : Nat) (last : Option Char) (tokens : List Token) :
    List Char → Except Failure (List Token)
  | [] => .ok tokens.reverse
  | '*' :: '*' :: rest =>
    if rest.head? = some '*' then .error ⟨position + 2, .tooManyStars⟩
    else if last.any (· != '/') then .error ⟨position - 1, .brokenComponents⟩
    else
      match rest with
      | [] => .ok (pushComponents tokens).reverse
      | '/' :: more => readFrom (position + 3) (some '/') (pushComponents tokens) more
      | _ :: _ => .error ⟨position + 2, .brokenComponents⟩
  | '[' :: rest =>
    match _h : readSet rest with
    | none => .error ⟨position, .brokenSet⟩
    | some (token, after) =>
      readFrom (position + 1 + (rest.length - after.length)) (some ']') (token :: tokens) after
  | '?' :: rest => readFrom (position + 1) (some '?') (.anyChar :: tokens) rest
  | '*' :: rest => readFrom (position + 1) (some '*') (.anyRun :: tokens) rest
  | c :: rest => readFrom (position + 1) (some c) (.char c :: tokens) rest
termination_by text => text.length
decreasing_by
  all_goals simp only [List.length_cons]
  all_goals try have := length_of_readSet _h
  all_goals omega

/-- Whether a token that stands for one character stands for `c`. -/
def Token.takes (c : Char) : Token → Bool
  | char d => c == d
  | anyChar => true
  | within set => set.any (·.has c)
  | outside set => !set.any (·.has c)
  | anyRun | anyComponents => false

/-- The answers for the ends of a text from the longest to the empty one, when a run of characters
may come before an end that `later` accepts. -/
def runRow (later : List Bool) : List Bool :=
  later.foldr (fun here row => (here || row.headD false) :: row) []

/-- The same for whole path components: they may be empty, end after some separator, or take all
that is left. Gives also whether an end further on may be reached in one of the latter two ways. -/
def componentsRow : List Char → List Bool → List Bool × Bool
  | c :: text, here :: later =>
    match componentsRow text later with
    | (row, beyond) =>
      let beyond := (c == '/' && later.headD false) || beyond
      ((here || beyond) :: row, beyond)
  | _, later => (later, later.headD false)

/-- The answers of one token for the ends of `text`, given those of the tokens after it. -/
def tokenRow (text : List Char) (token : Token) (later : List Bool) : List Bool :=
  match token with
  | .anyRun => runRow later
  | .anyComponents => (componentsRow text later).1
  | token => List.zipWith (fun c here => token.takes c && here) text later.tail ++ [false]

/-- The answers of a glob for the ends of `text`, from the whole text to the empty one. -/
def row (text : List Char) (tokens : List Token) : List Bool :=
  tokens.foldr (tokenRow text) (text.map (fun _ => false) ++ [true])

end Glob

/-- A glob as the tokens of its text. -/
structure Glob where
  tokens : List Glob.Token
  deriving DecidableEq

namespace Glob

def parse (text : List Char) : Except Failure Glob :=
  (readFrom 0 none [] text).map fun tokens => ⟨tokens⟩

def accepts (g : Glob) (name : List Char) : Bool := (row name g.tokens).headD false

/-- Makes a test of whole names out of the text of a glob. -/
abbrev Reader := List Char → Except Failure (List Char → Bool)

def tester : Reader := fun text => (parse text).map accepts

end Glob

end FileSeries
