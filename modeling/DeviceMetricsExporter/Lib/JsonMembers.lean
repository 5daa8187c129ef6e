import DeviceMetricsExporter.Lib.CaseMap

/-!
This module contains how `json.Unmarshal` fills the string fields of a struct from the members of an
object: a member sets the field whose name it has up to case, and a later member overwrites an earlier
one.
-/

abbrev JsonMembers := List (String × String)

namespace JsonMembers

def foldRune (c : Char) : Char :=
  -- Besides the letters themselves, only the long s and the Kelvin sign fold to ASCII.
  if c = Char.ofNat 0x17f then
    's'
  else if c = Char.ofNat 0x212a then
    'k'
  else
    CaseMap.asciiLower c

def foldName (name : String) : List Char :=
  name.toList.map foldRune

/--
The value of an ASCII field, where no other field of the struct has its name up to case.
-/
def field (members : JsonMembers) (name : String) : String :=
  ((members.filter fun member => foldName member.1 = foldName name).getLast?.map (·.2)).getD ""

@[simp]
theorem field_nil (name : String) : field [] name = "" := rfl

theorem field_congr {name name' : String} (h : foldName name = foldName name') (members : JsonMembers)
    : members.field name = members.field name' := by
  rw [field, field, h]

end JsonMembers
