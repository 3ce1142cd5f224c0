import RoutingBench.ChangeLog
set_option autoImplicit false

/-!
What the observers' watchers share: the arguments they pass to the emitter, and the texts of
their details.
-/

namespace RoutingBench

structure Emission where
  eventType : String
  oldValue : String
  newValue : String
  detail : String
  deriving DecidableEq, Repr

/-- json.dumps of a dictionary whose values are printed already. -/
def jsonDumps (fields : List (String × String)) : String :=
  "\x7b" ++ ", ".intercalate (fields.map fun (key,value) => "\"" ++ key ++ "\": " ++ value) ++ "\x7d"

def jsonBool (b : Bool) : String := if b then "true" else "false"

def jsonInt : Option Int → String
  | some n => toString n
  | none => "null"

/-- `\uXXXX` for a UTF-16 code unit. -/
def jsonUnit (n : Nat) : String :=
  "\\u" ++ String.ofList ([n / 4096,n / 256 % 16,n / 16 % 16,n % 16].map Nat.digitChar)

def jsonChar (c : Char) : String :=
  match c with
  | '"' => "\\\""
  | '\\' => "\\\\"
  | '\n' => "\\n"
  | '\r' => "\\r"
  | '\t' => "\\t"
  | '\x08' => "\\b"
  | '\x0c' => "\\f"
  | c =>
    if ' ' ≤ c ∧ c ≤ '~' then String.singleton c
    else if c.toNat < 65536 then jsonUnit c.toNat
    else jsonUnit (55296 + (c.toNat - 65536) / 1024) ++ jsonUnit (56320 + (c.toNat - 65536) % 1024)

/-- json.dumps of a text, in ASCII. -/
def jsonString (text : String) : String := "\"" ++ String.join (text.toList.map jsonChar) ++ "\""

/-- Python's `value or default` for a text that can be None. -/
def valueOr (value : Option String) (default : String) : String :=
  match value with
  | none => default
  | some text => if text = "" then default else text

theorem valueOr_getD {value : Option String} {default : String}
    (h : ∀ text, value = some text → text ≠ "") : valueOr value default = value.getD default := by
  cases value with
  | none => rfl
  | some text => simp [valueOr,h text rfl]

/-- The entries of a log of one type, as changes of the quantity they are about. -/
def changesOf (eventType : String) (log : List Emission) : List (ChangeLog.Change String) :=
  (log.filter fun e => e.eventType = eventType).map fun e => ⟨e.oldValue,e.newValue⟩

@[simp] theorem changesOf_nil (eventType : String) : changesOf eventType [] = [] := rfl

theorem changesOf_append (eventType : String) (log rest : List Emission) :
    changesOf eventType (log ++ rest) = changesOf eventType log ++ changesOf eventType rest := by
  simp [changesOf]

end RoutingBench
