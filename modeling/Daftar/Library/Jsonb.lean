/-
  File: Daftar/Library/Jsonb.lean
  Subject: JSONB values, their members and their text.

  * `text` is the operator that reads a member as text: a string as itself, a null as no text,
    anything else as PostgreSQL prints it.
-/

import Mathlib.Data.List.Basic

/-- A JSONB value. A number is kept as its text, and the members of an object in stored order. -/
inductive Jsonb
  | null
  | bool (b : Bool)
  | number (text : String)
  | string (s : String)
  | array (elements : List Jsonb)
  | object (members : List (String × Jsonb))

namespace Jsonb

/-! ## 1. Printing -/

def hexDigits (n : ℕ) : List Char := [Nat.digitChar (n / 16), Nat.digitChar (n % 16)]

def escapeChar (c : Char) : List Char :=
  if c = '"' then ['\\', '"']
  else if c = '\\' then ['\\', '\\']
  else if c.toNat = 8 then ['\\', 'b']
  else if c.toNat = 12 then ['\\', 'f']
  else if c = '\n' then ['\\', 'n']
  else if c = '\r' then ['\\', 'r']
  else if c = '\t' then ['\\', 't']
  else if c.toNat < 32 then ['\\', 'u', '0', '0'] ++ hexDigits c.toNat
  else [c]

def quote (s : String) : String := String.ofList ('"' :: (s.toList.flatMap escapeChar ++ ['"']))

mutual

def render : Jsonb → String
  | .null => "null"
  | .bool b => if b then "true" else "false"
  | .number text => text
  | .string s => quote s
  | .array elements => "[" ++ ", ".intercalate (renderElements elements) ++ "]"
  | .object members => "\x7b" ++ ", ".intercalate (renderMembers members) ++ "\x7d"

def renderElements : List Jsonb → List String
  | [] => []
  | e :: es => render e :: renderElements es

def renderMembers : List (String × Jsonb) → List String
  | [] => []
  | (k, v) :: ms => (quote k ++ ": " ++ render v) :: renderMembers ms

end

/-! ## 2. Reading -/

/-- `jsonb_typeof`. -/
def typeName : Jsonb → String
  | null => "null"
  | bool _ => "boolean"
  | number _ => "number"
  | string _ => "string"
  | array _ => "array"
  | object _ => "object"

/-- `value -> key`. -/
def member (v : Jsonb) (key : String) : Option Jsonb :=
  match v with
  | object members => (members.find? fun m => m.1 = key).map Prod.snd
  | _ => none

def asText : Jsonb → Option String
  | null => none
  | string s => some s
  | v => some (render v)

/-- `value ->> key`. -/
def text (v : Jsonb) (key : String) : Option String := (v.member key).bind asText

/-- `jsonb_typeof(value -> key)`. -/
def typeOf (v : Jsonb) (key : String) : Option String := (v.member key).map typeName

/-- `value ? key`, of an object. -/
def hasKey (v : Jsonb) (key : String) : Bool := (v.member key).isSome

/-- The member is there and null. -/
def isNull (v : Jsonb) (key : String) : Bool := (v.typeOf key) = some "null"

theorem text_eq_none_iff {v : Jsonb} {key : String} :
    v.text key = none ↔ v.hasKey key = false ∨ v.isNull key = true := by
  unfold text hasKey isNull typeOf
  cases h : v.member key with
  | none => simp
  | some m => cases m <;> simp [asText, typeName]

theorem hasKey_of_typeOf {v : Jsonb} {key type : String} (h : v.typeOf key = some type) :
    v.hasKey key = true := by
  obtain ⟨m, hm, _⟩ := Option.map_eq_some_iff.mp h
  exact Option.isSome_of_eq_some hm

end Jsonb
