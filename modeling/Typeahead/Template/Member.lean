/-!
# Members of kinds

A kind keeps members under names. What a member gives depends on its form:
most can be done with a subject of the kind, some say something about it, and
some are plain remarks.
-/

namespace Typeahead.Template

/-- How a member is kept by its kind. -/
inductive Form where
  /-- Done with a subject without being named: comparing, joining, counting and the like. -/
  | slot
  /-- Done with a subject by name. -/
  | method
  /-- Done with a kind by name. -/
  | classMethod
  /-- Done by name, with no subject. -/
  | detached
  /-- Makes a subject of the kind. -/
  | maker
  /-- Says something about a subject. -/
  | getter
  /-- Says something that is kept in a fixed place of a subject. -/
  | place
  /-- The note of the kind itself. -/
  | note
  /-- Nothing, where there could have been something. -/
  | absent
  deriving DecidableEq, Repr

structure Member where
  label : String
  form : Form
  /-- What is handed over, as it is written in a call; empty if nothing is known of it. -/
  signature : String := ""
  /-- The lines of the note that explains the member, if it has one. -/
  note : List String := []
  deriving DecidableEq, Repr

namespace Member

/-- The slots that there are, with what is handed over and the note. -/
def slots : List (String × String × String) :=
  [("__abs__", "($self, /)", "abs(self)"),
    ("__add__", "($self, value, /)", "Return self+value."),
    ("__and__", "($self, value, /)", "Return self&value."),
    ("__bool__", "($self, /)", "True if self else False"),
    ("__call__", "($self, /, *args, **kwargs)", "Call self as a function."),
    ("__contains__", "($self, key, /)", "Return key in self."),
    ("__delattr__", "($self, name, /)", "Implement delattr(self, name)."),
    ("__delete__", "($self, instance, /)", "Delete an attribute of instance."),
    ("__delitem__", "($self, key, /)", "Delete self[key]."),
    ("__divmod__", "($self, value, /)", "Return divmod(self, value)."),
    ("__eq__", "($self, value, /)", "Return self==value."),
    ("__float__", "($self, /)", "float(self)"),
    ("__floordiv__", "($self, value, /)", "Return self//value."),
    ("__ge__", "($self, value, /)", "Return self>=value."),
    ("__get__", "($self, instance, owner=None, /)",
      "Return an attribute of instance, which is of type owner."),
    ("__getattribute__", "($self, name, /)", "Return getattr(self, name)."),
    ("__getitem__", "($self, key, /)", "Return self[key]."),
    ("__gt__", "($self, value, /)", "Return self>value."),
    ("__hash__", "($self, /)", "Return hash(self)."),
    ("__index__", "($self, /)",
      "Return self converted to an integer, if self is suitable for use as an " ++
        "index into a list."),
    ("__init__", "($self, /, *args, **kwargs)",
      "Initialize self.  See help(type(self)) for accurate signature."),
    ("__int__", "($self, /)", "int(self)"),
    ("__invert__", "($self, /)", "~self"),
    ("__ior__", "($self, value, /)", "Return self|=value."),
    ("__iter__", "($self, /)", "Implement iter(self)."),
    ("__le__", "($self, value, /)", "Return self<=value."),
    ("__len__", "($self, /)", "Return len(self)."),
    ("__lshift__", "($self, value, /)", "Return self<<value."),
    ("__lt__", "($self, value, /)", "Return self<value."),
    ("__mod__", "($self, value, /)", "Return self%value."),
    ("__mul__", "($self, value, /)", "Return self*value."),
    ("__ne__", "($self, value, /)", "Return self!=value."),
    ("__neg__", "($self, /)", "-self"),
    ("__or__", "($self, value, /)", "Return self|value."),
    ("__pos__", "($self, /)", "+self"),
    ("__pow__", "($self, value, mod=None, /)", "Return pow(self, value, mod)."),
    ("__radd__", "($self, value, /)", "Return value+self."),
    ("__rand__", "($self, value, /)", "Return value&self."),
    ("__rdivmod__", "($self, value, /)", "Return divmod(value, self)."),
    ("__repr__", "($self, /)", "Return repr(self)."),
    ("__rfloordiv__", "($self, value, /)", "Return value//self."),
    ("__rlshift__", "($self, value, /)", "Return value<<self."),
    ("__rmod__", "($self, value, /)", "Return value%self."),
    ("__rmul__", "($self, value, /)", "Return value*self."),
    ("__ror__", "($self, value, /)", "Return value|self."),
    ("__rpow__", "($self, value, mod=None, /)", "Return pow(value, self, mod)."),
    ("__rrshift__", "($self, value, /)", "Return value>>self."),
    ("__rshift__", "($self, value, /)", "Return self>>value."),
    ("__rsub__", "($self, value, /)", "Return value-self."),
    ("__rtruediv__", "($self, value, /)", "Return value/self."),
    ("__rxor__", "($self, value, /)", "Return value^self."),
    ("__set__", "($self, instance, value, /)", "Set an attribute of instance to value."),
    ("__setattr__", "($self, name, value, /)", "Implement setattr(self, name, value)."),
    ("__setitem__", "($self, key, value, /)", "Set self[key] to value."),
    ("__str__", "($self, /)", "Return str(self)."),
    ("__sub__", "($self, value, /)", "Return self-value."),
    ("__truediv__", "($self, value, /)", "Return self/value."),
    ("__xor__", "($self, value, /)", "Return self^value.")]

def slot (label : String) : Member :=
  match slots.lookup label with
  | some (signature, note) => ⟨label, .slot, signature, [note]⟩
  | none => ⟨label, .slot, "", []⟩

/-- A member done with a subject. -/
def method (label signature : String) (note : List String) : Member :=
  ⟨label, .method, signature, note⟩

/-- A member done with a kind. -/
def classMethod (label signature : String) (note : List String) : Member :=
  ⟨label, .classMethod, signature, note⟩

/-- A member done with no subject. -/
def detached (label signature : String) (note : List String) : Member :=
  ⟨label, .detached, signature, note⟩

def maker : Member :=
  ⟨"__new__", .maker, "($type, *args, **kwargs)",
    ["Create and return a new object.  See help(type) for accurate signature."]⟩

/-- A member that says something about a subject. -/
def getter (label : String) (note : List String := []) : Member :=
  ⟨label, .getter, "", note⟩

/-- A member that says something kept in a fixed place. -/
def place (label : String) : Member :=
  ⟨label, .place, "", []⟩

def noteOfKind (note : List String) : Member :=
  ⟨"__doc__", .note, "", note⟩

/-- A member that is not there on purpose. -/
def absent (label : String) : Member :=
  ⟨label, .absent, "", []⟩

def note? (m : Member) : Option String :=
  if m.note.isEmpty then none else some ("\n".intercalate m.note)

def signature? (m : Member) : Option String :=
  if m.signature.isEmpty then none else some m.signature

/-- Whether a member says something about a subject rather than being done with it. -/
def isGiven (m : Member) : Bool :=
  m.form = .getter || m.form = .place

end Member

end Typeahead.Template
