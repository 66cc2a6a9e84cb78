import PartitionKeys.Template.Kind

/-!
# KindTable — the kinds of values that a template can reach

For each kind: its base, its sizes, and what it offers beyond its base, in order, with help texts.

* `Kind.all`: the kinds;
* `Kind.get`: the kind of a name;
* `Kind.find?`: what a kind offers under a name, itself or through a base.
-/

namespace PartitionKeys
namespace Template
namespace Kind

/-! ## Operators -/

/-- The parameters and the help text of an operator, alike for every kind. -/
def operatorHelp : List (String × String × String) :=
  [
    ("__repr__", "($self, /)", "Return repr(self)."),
    ("__hash__", "($self, /)", "Return hash(self)."),
    ("__str__", "($self, /)", "Return str(self)."),
    ("__getattribute__", "($self, name, /)", "Return getattr(self, name)."),
    ("__setattr__", "($self, name, value, /)", "Implement setattr(self, name, value)."),
    ("__delattr__", "($self, name, /)", "Implement delattr(self, name)."),
    ("__lt__", "($self, value, /)", "Return self<value."),
    ("__le__", "($self, value, /)", "Return self<=value."),
    ("__eq__", "($self, value, /)", "Return self==value."),
    ("__ne__", "($self, value, /)", "Return self!=value."),
    ("__gt__", "($self, value, /)", "Return self>value."),
    ("__ge__", "($self, value, /)", "Return self>=value."),
    ("__init__", "($self, /, *args, **kwargs)",
      "Initialize self.  See help(type(self)) for accurate signature."),
    ("__call__", "($self, /, *args, **kwargs)", "Call self as a function."),
    ("__or__", "($self, value, /)", "Return self|value."),
    ("__ror__", "($self, value, /)", "Return value|self."),
    ("__iter__", "($self, /)", "Implement iter(self)."),
    ("__mod__", "($self, value, /)", "Return self%value."),
    ("__rmod__", "($self, value, /)", "Return value%self."),
    ("__len__", "($self, /)", "Return len(self)."),
    ("__getitem__", "($self, key, /)", "Return self[key]."),
    ("__add__", "($self, value, /)", "Return self+value."),
    ("__mul__", "($self, value, /)", "Return self*value."),
    ("__rmul__", "($self, value, /)", "Return value*self."),
    ("__contains__", "($self, key, /)", "Return key in self."),
    ("__radd__", "($self, value, /)", "Return value+self."),
    ("__sub__", "($self, value, /)", "Return self-value."),
    ("__rsub__", "($self, value, /)", "Return value-self."),
    ("__divmod__", "($self, value, /)", "Return divmod(self, value)."),
    ("__rdivmod__", "($self, value, /)", "Return divmod(value, self)."),
    ("__pow__", "($self, value, mod=None, /)", "Return pow(self, value, mod)."),
    ("__rpow__", "($self, value, mod=None, /)", "Return pow(value, self, mod)."),
    ("__neg__", "($self, /)", "-self"),
    ("__pos__", "($self, /)", "+self"),
    ("__abs__", "($self, /)", "abs(self)"),
    ("__bool__", "($self, /)", "True if self else False"),
    ("__invert__", "($self, /)", "~self"),
    ("__lshift__", "($self, value, /)", "Return self<<value."),
    ("__rlshift__", "($self, value, /)", "Return value<<self."),
    ("__rshift__", "($self, value, /)", "Return self>>value."),
    ("__rrshift__", "($self, value, /)", "Return value>>self."),
    ("__and__", "($self, value, /)", "Return self&value."),
    ("__rand__", "($self, value, /)", "Return value&self."),
    ("__xor__", "($self, value, /)", "Return self^value."),
    ("__rxor__", "($self, value, /)", "Return value^self."),
    ("__int__", "($self, /)", "int(self)"),
    ("__float__", "($self, /)", "float(self)"),
    ("__floordiv__", "($self, value, /)", "Return self//value."),
    ("__rfloordiv__", "($self, value, /)", "Return value//self."),
    ("__truediv__", "($self, value, /)", "Return self/value."),
    ("__rtruediv__", "($self, value, /)", "Return value/self."),
    ("__index__", "($self, /)",
      ("Return self converted to an integer, if self is suitable for use as an index " ++
        "into a list.")),
    ("__ior__", "($self, value, /)", "Return self|=value."),
    ("__setitem__", "($self, key, value, /)", "Set self[key] to value."),
    ("__delitem__", "($self, key, /)", "Delete self[key]."),
    ("__get__", "($self, instance, owner=None, /)",
      "Return an attribute of instance, which is of type owner."),
    ("__set__", "($self, instance, value, /)", "Set an attribute of instance to value."),
    ("__delete__", "($self, instance, /)", "Delete an attribute of instance.") ]

def operators (names : List String) : List Member :=
  names.map fun n =>
    let help := operatorHelp.lookup n
    ⟨n, .operator, help.map (·.1), help.map (·.2)⟩

/-! ## What each kind offers -/

def objectMembers : List Member :=
  [ ⟨"__new__", .maker, (some "($type, *args, **kwargs)"),
        (some "Create and return a new object.  See help(type) for accurate signature.")⟩ ] ++
  operators
    [ "__repr__", "__hash__", "__str__", "__getattribute__", "__setattr__", "__delattr__",
      "__lt__", "__le__", "__eq__", "__ne__", "__gt__", "__ge__", "__init__" ] ++
  [ ⟨"__reduce_ex__", .method, (some "($self, protocol, /)"), (some "Helper for pickle.")⟩,
    ⟨"__reduce__", .method, (some "($self, /)"), (some "Helper for pickle.")⟩,
    ⟨"__getstate__", .method, (some "($self, /)"), (some "Helper for pickle.")⟩,
    ⟨"__subclasshook__", .kindMethod, none,
        (some ("Abstract classes can override this to customize issubclass().\n\n" ++
          "This is invoked early on by abc.ABCMeta.__subclasscheck__().\n" ++
          "It should return True, False or NotImplemented.  If it returns\n" ++
          "NotImplemented, the normal algorithm is used.  Otherwise, it\n" ++
          "overrides the normal algorithm (and the outcome is cached).\n"))⟩,
    ⟨"__init_subclass__", .kindMethod, none,
        (some ("This method is called when a class is subclassed.\n\n" ++
          "The default implementation does nothing. It may be\n" ++
          "overridden to extend subclasses.\n"))⟩,
    ⟨"__format__", .method, (some "($self, format_spec, /)"),
        (some "Default object formatter.")⟩,
    ⟨"__sizeof__", .method, (some "($self, /)"),
        (some "Size of object in memory, in bytes.")⟩,
    ⟨"__dir__", .method, (some "($self, /)"), (some "Default dir() implementation.")⟩,
    ⟨"__class__", .computed, none, (some "the object's class")⟩,
    ⟨"__doc__", .help, none,
        (some ("The base class of the class hierarchy.\n\n" ++
          "When called, it accepts no arguments and returns a new featureless\n" ++
          "instance that has no instance attributes and cannot be given any.\n"))⟩ ]

def kindMembers : List Member :=
  [ ⟨"__new__", .maker, (some "($type, *args, **kwargs)"),
        (some "Create and return a new object.  See help(type) for accurate signature.")⟩ ] ++
  operators
    [ "__repr__", "__call__", "__getattribute__", "__setattr__", "__delattr__", "__init__",
      "__or__", "__ror__" ] ++
  [ ⟨"mro", .method, (some "($self, /)"), (some "Return a type's method resolution order.")⟩,
    ⟨"__subclasses__", .method, (some "($self, /)"),
        (some "Return a list of immediate subclasses.")⟩,
    ⟨"__prepare__", .kindMethod, none,
        (some "__prepare__() -> dict\nused to create the namespace for the class statement")⟩,
    ⟨"__instancecheck__", .method, (some "($self, instance, /)"),
        (some "Check if an object is an instance.")⟩,
    ⟨"__subclasscheck__", .method, (some "($self, subclass, /)"),
        (some "Check if a class is a subclass.")⟩,
    ⟨"__dir__", .method, (some "($self, /)"),
        (some "Specialized __dir__ implementation for types.")⟩,
    ⟨"__sizeof__", .method, (some "($self, /)"),
        (some "Return memory consumption of the type object.")⟩,
    ⟨"__basicsize__", .stored, none, none⟩,
    ⟨"__itemsize__", .stored, none, none⟩,
    ⟨"__flags__", .stored, none, none⟩,
    ⟨"__weakrefoffset__", .stored, none, none⟩,
    ⟨"__base__", .stored, none, none⟩,
    ⟨"__dictoffset__", .stored, none, none⟩,
    ⟨"__mro__", .stored, none, none⟩,
    ⟨"__name__", .computed, none, none⟩,
    ⟨"__qualname__", .computed, none, none⟩,
    ⟨"__bases__", .computed, none, none⟩,
    ⟨"__module__", .computed, none, none⟩,
    ⟨"__abstractmethods__", .computed, none, none⟩,
    ⟨"__dict__", .computed, none, none⟩,
    ⟨"__doc__", .computed, none, none⟩,
    ⟨"__text_signature__", .computed, none, none⟩,
    ⟨"__annotations__", .computed, none, none⟩ ]

def textMembers : List Member :=
  [ ⟨"__new__", .maker, (some "($type, *args, **kwargs)"),
        (some "Create and return a new object.  See help(type) for accurate signature.")⟩ ] ++
  operators
    [ "__repr__", "__hash__", "__str__", "__getattribute__", "__lt__", "__le__", "__eq__",
      "__ne__", "__gt__", "__ge__", "__iter__", "__mod__", "__rmod__", "__len__", "__getitem__",
      "__add__", "__mul__", "__rmul__", "__contains__" ] ++
  [ ⟨"encode", .method, (some "($self, /, encoding='utf-8', errors='strict')"),
        (some ("Encode the string using the codec registered for encoding.\n\n  encoding\n" ++
          "    The encoding in which to encode the string.\n  errors\n" ++
          "    The error handling scheme to use for encoding errors.\n" ++
          "    The default is 'strict' meaning that encoding errors raise a\n" ++
          "    UnicodeEncodeError.  Other possible values are 'ignore', 'replace' and\n" ++
          "    'xmlcharrefreplace' as well as any other name registered with\n" ++
          "    codecs.register_error that can handle UnicodeEncodeErrors."))⟩,
    ⟨"replace", .method, (some "($self, old, new, count=-1, /)"),
        (some ("Return a copy with all occurrences of substring old replaced by new.\n\n" ++
          "  count\n    Maximum number of occurrences to replace.\n" ++
          "    -1 (the default value) means replace all occurrences.\n\n" ++
          "If the optional argument count is given, only the first count occurrences " ++
          "are\nreplaced."))⟩,
    ⟨"split", .method, (some "($self, /, sep=None, maxsplit=-1)"),
        (some ("Return a list of the substrings in the string, using sep as the separator " ++
          "string.\n\n  sep\n    The separator used to split the string.\n\n" ++
          "    When set to None (the default value), will split on any whitespace\n" ++
          "    character (including \\\\n \\\\r \\\\t \\\\f and spaces) and will discard\n" ++
          "    empty strings from the result.\n  maxsplit\n" ++
          "    Maximum number of splits (starting from the left).\n" ++
          "    -1 (the default value) means no limit.\n\n" ++
          "Note, str.split() is mainly useful for data that has been intentionally\n" ++
          "delimited.  With natural text that includes punctuation, consider using\n" ++
          "the regular expression module."))⟩,
    ⟨"rsplit", .method, (some "($self, /, sep=None, maxsplit=-1)"),
        (some ("Return a list of the substrings in the string, using sep as the separator " ++
          "string.\n\n  sep\n    The separator used to split the string.\n\n" ++
          "    When set to None (the default value), will split on any whitespace\n" ++
          "    character (including \\\\n \\\\r \\\\t \\\\f and spaces) and will discard\n" ++
          "    empty strings from the result.\n  maxsplit\n" ++
          "    Maximum number of splits (starting from the left).\n" ++
          "    -1 (the default value) means no limit.\n\n" ++
          "Splitting starts at the end of the string and works to the front."))⟩,
    ⟨"join", .method, (some "($self, iterable, /)"),
        (some ("Concatenate any number of strings.\n\n" ++
          "The string whose method is called is inserted in between each given string.\n" ++
          "The result is returned as a new string.\n\n" ++
          "Example: '.'.join(['ab', 'pq', 'rs']) -> 'ab.pq.rs'"))⟩,
    ⟨"capitalize", .method, (some "($self, /)"),
        (some ("Return a capitalized version of the string.\n\n" ++
          "More specifically, make the first character have upper case and the rest " ++
          "lower\ncase."))⟩,
    ⟨"casefold", .method, (some "($self, /)"),
        (some "Return a version of the string suitable for caseless comparisons.")⟩,
    ⟨"title", .method, (some "($self, /)"),
        (some ("Return a version of the string where each word is titlecased.\n\n" ++
          "More specifically, words start with uppercased characters and all remaining\n" ++
          "cased characters have lower case."))⟩,
    ⟨"center", .method, (some "($self, width, fillchar=' ', /)"),
        (some ("Return a centered string of length width.\n\n" ++
          "Padding is done using the specified fill character (default is a space)."))⟩,
    ⟨"count", .method, none,
        (some ("S.count(sub[, start[, end]]) -> int\n\n" ++
          "Return the number of non-overlapping occurrences of substring sub in\n" ++
          "string S[start:end].  Optional arguments start and end are\n" ++
          "interpreted as in slice notation."))⟩,
    ⟨"expandtabs", .method, (some "($self, /, tabsize=8)"),
        (some ("Return a copy where all tab characters are expanded using spaces.\n\n" ++
          "If tabsize is not given, a tab size of 8 characters is assumed."))⟩,
    ⟨"find", .method, none,
        (some ("S.find(sub[, start[, end]]) -> int\n\n" ++
          "Return the lowest index in S where substring sub is found,\n" ++
          "such that sub is contained within S[start:end].  Optional\n" ++
          "arguments start and end are interpreted as in slice notation.\n\n" ++
          "Return -1 on failure."))⟩,
    ⟨"partition", .method, (some "($self, sep, /)"),
        (some ("Partition the string into three parts using the given separator.\n\n" ++
          "This will search for the separator in the string.  If the separator is " ++
          "found,\n" ++
          "returns a 3-tuple containing the part before the separator, the separator\n" ++
          "itself, and the part after it.\n\n" ++
          "If the separator is not found, returns a 3-tuple containing the original " ++
          "string\nand two empty strings."))⟩,
    ⟨"index", .method, none,
        (some ("S.index(sub[, start[, end]]) -> int\n\n" ++
          "Return the lowest index in S where substring sub is found,\n" ++
          "such that sub is contained within S[start:end].  Optional\n" ++
          "arguments start and end are interpreted as in slice notation.\n\n" ++
          "Raises ValueError when the substring is not found."))⟩,
    ⟨"ljust", .method, (some "($self, width, fillchar=' ', /)"),
        (some ("Return a left-justified string of length width.\n\n" ++
          "Padding is done using the specified fill character (default is a space)."))⟩,
    ⟨"lower", .method, (some "($self, /)"),
        (some "Return a copy of the string converted to lowercase.")⟩,
    ⟨"lstrip", .method, (some "($self, chars=None, /)"),
        (some ("Return a copy of the string with leading whitespace removed.\n\n" ++
          "If chars is given and not None, remove characters in chars instead."))⟩,
    ⟨"rfind", .method, none,
        (some ("S.rfind(sub[, start[, end]]) -> int\n\n" ++
          "Return the highest index in S where substring sub is found,\n" ++
          "such that sub is contained within S[start:end].  Optional\n" ++
          "arguments start and end are interpreted as in slice notation.\n\n" ++
          "Return -1 on failure."))⟩,
    ⟨"rindex", .method, none,
        (some ("S.rindex(sub[, start[, end]]) -> int\n\n" ++
          "Return the highest index in S where substring sub is found,\n" ++
          "such that sub is contained within S[start:end].  Optional\n" ++
          "arguments start and end are interpreted as in slice notation.\n\n" ++
          "Raises ValueError when the substring is not found."))⟩,
    ⟨"rjust", .method, (some "($self, width, fillchar=' ', /)"),
        (some ("Return a right-justified string of length width.\n\n" ++
          "Padding is done using the specified fill character (default is a space)."))⟩,
    ⟨"rstrip", .method, (some "($self, chars=None, /)"),
        (some ("Return a copy of the string with trailing whitespace removed.\n\n" ++
          "If chars is given and not None, remove characters in chars instead."))⟩,
    ⟨"rpartition", .method, (some "($self, sep, /)"),
        (some ("Partition the string into three parts using the given separator.\n\n" ++
          "This will search for the separator in the string, starting at the end. If\n" ++
          "the separator is found, returns a 3-tuple containing the part before the\n" ++
          "separator, the separator itself, and the part after it.\n\n" ++
          "If the separator is not found, returns a 3-tuple containing two empty " ++
          "strings\nand the original string."))⟩,
    ⟨"splitlines", .method, (some "($self, /, keepends=False)"),
        (some ("Return a list of the lines in the string, breaking at line boundaries.\n\n" ++
          "Line breaks are not included in the resulting list unless keepends is given " ++
          "and\ntrue."))⟩,
    ⟨"strip", .method, (some "($self, chars=None, /)"),
        (some ("Return a copy of the string with leading and trailing whitespace removed.\n\n" ++
          "If chars is given and not None, remove characters in chars instead."))⟩,
    ⟨"swapcase", .method, (some "($self, /)"),
        (some ("Convert uppercase characters to lowercase and lowercase characters to " ++
          "uppercase."))⟩,
    ⟨"translate", .method, (some "($self, table, /)"),
        (some ("Replace each character in the string using the given translation table.\n\n" ++
          "  table\n" ++
          "    Translation table, which must be a mapping of Unicode ordinals to\n" ++
          "    Unicode ordinals, strings, or None.\n\n" ++
          "The table must implement lookup/indexing via __getitem__, for instance a\n" ++
          "dictionary or list.  If this operation raises LookupError, the character is\n" ++
          "left untouched.  Characters mapped to None are deleted."))⟩,
    ⟨"upper", .method, (some "($self, /)"),
        (some "Return a copy of the string converted to uppercase.")⟩,
    ⟨"startswith", .method, none,
        (some ("S.startswith(prefix[, start[, end]]) -> bool\n\n" ++
          "Return True if S starts with the specified prefix, False otherwise.\n" ++
          "With optional start, test S beginning at that position.\n" ++
          "With optional end, stop comparing S at that position.\n" ++
          "prefix can also be a tuple of strings to try."))⟩,
    ⟨"endswith", .method, none,
        (some ("S.endswith(suffix[, start[, end]]) -> bool\n\n" ++
          "Return True if S ends with the specified suffix, False otherwise.\n" ++
          "With optional start, test S beginning at that position.\n" ++
          "With optional end, stop comparing S at that position.\n" ++
          "suffix can also be a tuple of strings to try."))⟩,
    ⟨"removeprefix", .method, (some "($self, prefix, /)"),
        (some ("Return a str with the given prefix string removed if present.\n\n" ++
          "If the string starts with the prefix string, return string[len(prefix):].\n" ++
          "Otherwise, return a copy of the original string."))⟩,
    ⟨"removesuffix", .method, (some "($self, suffix, /)"),
        (some ("Return a str with the given suffix string removed if present.\n\n" ++
          "If the string ends with the suffix string and that suffix is not empty,\n" ++
          "return string[:-len(suffix)]. Otherwise, return a copy of the original\n" ++
          "string."))⟩,
    ⟨"isascii", .method, (some "($self, /)"),
        (some ("Return True if all characters in the string are ASCII, False otherwise.\n\n" ++
          "ASCII characters have code points in the range U+0000-U+007F.\n" ++
          "Empty string is ASCII too."))⟩,
    ⟨"islower", .method, (some "($self, /)"),
        (some ("Return True if the string is a lowercase string, False otherwise.\n\n" ++
          "A string is lowercase if all cased characters in the string are lowercase " ++
          "and\nthere is at least one cased character in the string."))⟩,
    ⟨"isupper", .method, (some "($self, /)"),
        (some ("Return True if the string is an uppercase string, False otherwise.\n\n" ++
          "A string is uppercase if all cased characters in the string are uppercase " ++
          "and\nthere is at least one cased character in the string."))⟩,
    ⟨"istitle", .method, (some "($self, /)"),
        (some ("Return True if the string is a title-cased string, False otherwise.\n\n" ++
          "In a title-cased string, upper- and title-case characters may only\n" ++
          "follow uncased characters and lowercase characters only cased ones."))⟩,
    ⟨"isspace", .method, (some "($self, /)"),
        (some ("Return True if the string is a whitespace string, False otherwise.\n\n" ++
          "A string is whitespace if all characters in the string are whitespace and " ++
          "there\nis at least one character in the string."))⟩,
    ⟨"isdecimal", .method, (some "($self, /)"),
        (some ("Return True if the string is a decimal string, False otherwise.\n\n" ++
          "A string is a decimal string if all characters in the string are decimal and\n" ++
          "there is at least one character in the string."))⟩,
    ⟨"isdigit", .method, (some "($self, /)"),
        (some ("Return True if the string is a digit string, False otherwise.\n\n" ++
          "A string is a digit string if all characters in the string are digits and " ++
          "there\nis at least one character in the string."))⟩,
    ⟨"isnumeric", .method, (some "($self, /)"),
        (some ("Return True if the string is a numeric string, False otherwise.\n\n" ++
          "A string is numeric if all characters in the string are numeric and there is " ++
          "at\nleast one character in the string."))⟩,
    ⟨"isalpha", .method, (some "($self, /)"),
        (some ("Return True if the string is an alphabetic string, False otherwise.\n\n" ++
          "A string is alphabetic if all characters in the string are alphabetic and " ++
          "there\nis at least one character in the string."))⟩,
    ⟨"isalnum", .method, (some "($self, /)"),
        (some ("Return True if the string is an alpha-numeric string, False otherwise.\n\n" ++
          "A string is alpha-numeric if all characters in the string are alpha-numeric " ++
          "and\nthere is at least one character in the string."))⟩,
    ⟨"isidentifier", .method, (some "($self, /)"),
        (some ("Return True if the string is a valid Python identifier, False otherwise.\n\n" ++
          "Call keyword.iskeyword(s) to test whether string s is a reserved identifier,\n" ++
          "such as \"def\" or \"class\"."))⟩,
    ⟨"isprintable", .method, (some "($self, /)"),
        (some ("Return True if the string is printable, False otherwise.\n\n" ++
          "A string is printable if all of its characters are considered printable in\n" ++
          "repr() or if it is empty."))⟩,
    ⟨"zfill", .method, (some "($self, width, /)"),
        (some ("Pad a numeric string with zeros on the left, to fill a field of the given " ++
          "width.\n\nThe string is never truncated."))⟩,
    ⟨"format", .method, none,
        (some ("S.format(*args, **kwargs) -> str\n\n" ++
          "Return a formatted version of S, using substitutions from args and kwargs.\n" ++
          "The substitutions are identified by braces ('\x7b' and '\x7d')."))⟩,
    ⟨"format_map", .method, none,
        (some ("S.format_map(mapping) -> str\n\n" ++
          "Return a formatted version of S, using substitutions from mapping.\n" ++
          "The substitutions are identified by braces ('\x7b' and '\x7d')."))⟩,
    ⟨"__format__", .method, (some "($self, format_spec, /)"),
        (some "Return a formatted version of the string as described by format_spec.")⟩,
    ⟨"maketrans", .standalone, (some "(x, y=<unrepresentable>, z=<unrepresentable>, /)"),
        (some ("Return a translation table usable for str.translate().\n\n" ++
          "If there is only one argument, it must be a dictionary mapping Unicode\n" ++
          "ordinals (integers) or characters to Unicode ordinals, strings or None.\n" ++
          "Character keys will be then converted to ordinals.\n" ++
          "If there are two arguments, they must be strings of equal length, and\n" ++
          "in the resulting dictionary, each character in x will be mapped to the\n" ++
          "character at the same position in y. If there is a third argument, it\n" ++
          "must be a string, whose characters will be mapped to None in the result."))⟩,
    ⟨"__sizeof__", .method, (some "($self, /)"),
        (some "Return the size of the string in memory, in bytes.")⟩,
    ⟨"__getnewargs__", .method, none, none⟩,
    ⟨"__doc__", .help, none,
        (some ("str(object='') -> str\nstr(bytes_or_buffer[, encoding[, errors]]) -> str\n\n" ++
          "Create a new string object from the given object. If encoding or\n" ++
          "errors is specified, then the object must expose a data buffer\n" ++
          "that will be decoded using the given encoding and error handler.\n" ++
          "Otherwise, returns the result of object.__str__() (if defined)\n" ++
          "or repr(object).\nencoding defaults to sys.getdefaultencoding().\n" ++
          "errors defaults to 'strict'."))⟩ ]

def tupleMembers : List Member :=
  [ ⟨"__new__", .maker, (some "($type, *args, **kwargs)"),
        (some "Create and return a new object.  See help(type) for accurate signature.")⟩ ] ++
  operators
    [ "__repr__", "__hash__", "__getattribute__", "__lt__", "__le__", "__eq__", "__ne__",
      "__gt__", "__ge__", "__iter__", "__len__", "__getitem__", "__add__", "__mul__", "__rmul__",
      "__contains__" ] ++
  [ ⟨"__getnewargs__", .method, (some "($self, /)"), none⟩,
    ⟨"index", .method, (some "($self, value, start=0, stop=sys.maxsize, /)"),
        (some "Return first index of value.\n\nRaises ValueError if the value is not present.")⟩,
    ⟨"count", .method, (some "($self, value, /)"),
        (some "Return number of occurrences of value.")⟩,
    ⟨"__class_getitem__", .kindMethod, none, (some "See PEP 585")⟩,
    ⟨"__doc__", .help, none,
        (some ("Built-in immutable sequence.\n\n" ++
          "If no argument is given, the constructor returns an empty tuple.\n" ++
          "If iterable is specified the tuple is initialized from iterable's items.\n\n" ++
          "If the argument is a tuple, the return value is the same object."))⟩ ]

def wholeMembers : List Member :=
  [ ⟨"__new__", .maker, (some "($type, *args, **kwargs)"),
        (some "Create and return a new object.  See help(type) for accurate signature.")⟩ ] ++
  operators
    [ "__repr__", "__hash__", "__getattribute__", "__lt__", "__le__", "__eq__", "__ne__",
      "__gt__", "__ge__", "__add__", "__radd__", "__sub__", "__rsub__", "__mul__", "__rmul__",
      "__mod__", "__rmod__", "__divmod__", "__rdivmod__", "__pow__", "__rpow__", "__neg__",
      "__pos__", "__abs__", "__bool__", "__invert__", "__lshift__", "__rlshift__", "__rshift__",
      "__rrshift__", "__and__", "__rand__", "__xor__", "__rxor__", "__or__", "__ror__", "__int__",
      "__float__", "__floordiv__", "__rfloordiv__", "__truediv__", "__rtruediv__", "__index__" ] ++
  [ ⟨"conjugate", .method, none, (some "Returns self, the complex conjugate of any int.")⟩,
    ⟨"bit_length", .method, (some "($self, /)"),
        (some ("Number of bits necessary to represent self in binary.\n\n>>> bin(37)\n" ++
          "'0b100101'\n>>> (37).bit_length()\n6"))⟩,
    ⟨"bit_count", .method, (some "($self, /)"),
        (some ("Number of ones in the binary representation of the absolute value of self.\n\n" ++
          "Also known as the population count.\n\n>>> bin(13)\n'0b1101'\n" ++
          ">>> (13).bit_count()\n3"))⟩,
    ⟨"to_bytes", .method, (some "($self, /, length=1, byteorder='big', *, signed=False)"),
        (some ("Return an array of bytes representing an integer.\n\n  length\n" ++
          "    Length of bytes object to use.  An OverflowError is raised if the\n" ++
          "    integer is not representable with the given number of bytes.  Default\n" ++
          "    is length 1.\n  byteorder\n" ++
          "    The byte order used to represent the integer.  If byteorder is 'big',\n" ++
          "    the most significant byte is at the beginning of the byte array.  If\n" ++
          "    byteorder is 'little', the most significant byte is at the end of the\n" ++
          "    byte array.  To request the native byte order of the host system, use\n" ++
          "    `sys.byteorder' as the byte order value.  Default is to use 'big'.\n" ++
          "  signed\n" ++
          "    Determines whether two's complement is used to represent the integer.\n" ++
          "    If signed is False and a negative integer is given, an OverflowError\n" ++
          "    is raised."))⟩,
    ⟨"from_bytes", .kindMethod, (some "($type, /, bytes, byteorder='big', *, signed=False)"),
        (some ("Return the integer represented by the given array of bytes.\n\n  bytes\n" ++
          "    Holds the array of bytes to convert.  The argument must either\n" ++
          "    support the buffer protocol or be an iterable object producing bytes.\n" ++
          "    Bytes and bytearray are examples of built-in objects that support the\n" ++
          "    buffer protocol.\n  byteorder\n" ++
          "    The byte order used to represent the integer.  If byteorder is 'big',\n" ++
          "    the most significant byte is at the beginning of the byte array.  If\n" ++
          "    byteorder is 'little', the most significant byte is at the end of the\n" ++
          "    byte array.  To request the native byte order of the host system, use\n" ++
          "    `sys.byteorder' as the byte order value.  Default is to use 'big'.\n" ++
          "  signed\n" ++
          "    Indicates whether two's complement is used to represent the integer."))⟩,
    ⟨"as_integer_ratio", .method, (some "($self, /)"),
        (some ("Return integer ratio.\n\n" ++
          "Return a pair of integers, whose ratio is exactly equal to the original int\n" ++
          "and with a positive denominator.\n\n>>> (10).as_integer_ratio()\n(10, 1)\n" ++
          ">>> (-10).as_integer_ratio()\n(-10, 1)\n>>> (0).as_integer_ratio()\n(0, 1)"))⟩,
    ⟨"__trunc__", .method, none, (some "Truncating an Integral returns itself.")⟩,
    ⟨"__floor__", .method, none, (some "Flooring an Integral returns itself.")⟩,
    ⟨"__ceil__", .method, none, (some "Ceiling of an Integral returns itself.")⟩,
    ⟨"__round__", .method, (some "($self, ndigits=<unrepresentable>, /)"),
        (some ("Rounding an Integral returns itself.\n\n" ++
          "Rounding with an ndigits argument also returns an integer."))⟩,
    ⟨"__getnewargs__", .method, (some "($self, /)"), none⟩,
    ⟨"__format__", .method, (some "($self, format_spec, /)"), none⟩,
    ⟨"__sizeof__", .method, (some "($self, /)"), (some "Returns size in memory, in bytes.")⟩,
    ⟨"real", .computed, none, (some "the real part of a complex number")⟩,
    ⟨"imag", .computed, none, (some "the imaginary part of a complex number")⟩,
    ⟨"numerator", .computed, none,
        (some "the numerator of a rational number in lowest terms")⟩,
    ⟨"denominator", .computed, none,
        (some "the denominator of a rational number in lowest terms")⟩,
    ⟨"__doc__", .help, none,
        (some ("int([x]) -> integer\nint(x, base=10) -> integer\n\n" ++
          "Convert a number or string to an integer, or return 0 if no arguments\n" ++
          "are given.  If x is a number, return x.__int__().  For floating point\n" ++
          "numbers, this truncates towards zero.\n\n" ++
          "If x is not a number or if base is given, then x must be a string,\n" ++
          "bytes, or bytearray instance representing an integer literal in the\n" ++
          "given base.  The literal can be preceded by '+' or '-' and be surrounded\n" ++
          "by whitespace.  The base defaults to 10.  Valid bases are 0 and 2-36.\n" ++
          "Base 0 means to interpret the base from the string as an integer literal.\n" ++
          ">>> int('0b100', base=0)\n4"))⟩ ]

def truthMembers : List Member :=
  [ ⟨"__new__", .maker, (some "($type, *args, **kwargs)"),
        (some "Create and return a new object.  See help(type) for accurate signature.")⟩ ] ++
  operators ["__repr__", "__and__", "__rand__", "__xor__", "__rxor__", "__or__", "__ror__"] ++
  [ ⟨"__doc__", .help, none,
        (some ("bool(x) -> bool\n\n" ++
          "Returns True when the argument x is true, False otherwise.\n" ++
          "The builtins True and False are the only two instances of the class bool.\n" ++
          "The class bool is a subclass of the class int, and cannot be subclassed."))⟩ ]

def nothingMembers : List Member :=
  [ ⟨"__new__", .maker, (some "($type, *args, **kwargs)"),
        (some "Create and return a new object.  See help(type) for accurate signature.")⟩ ] ++
  operators ["__repr__", "__bool__"] ++
  [ ⟨"__doc__", .nothing, none, none⟩ ]

def recordMembers : List Member :=
  [ ⟨"__new__", .maker, (some "($type, *args, **kwargs)"),
        (some "Create and return a new object.  See help(type) for accurate signature.")⟩ ] ++
  operators ["__repr__"] ++
  [ ⟨"__hash__", .nothing, none, none⟩ ] ++
  operators
    [ "__getattribute__", "__lt__", "__le__", "__eq__", "__ne__", "__gt__", "__ge__", "__iter__",
      "__init__", "__or__", "__ror__", "__ior__", "__len__" ] ++
  [ ⟨"__getitem__", .method, none, (some "x.__getitem__(y) <==> x[y]")⟩ ] ++
  operators ["__setitem__", "__delitem__"] ++
  [ ⟨"__contains__", .method, (some "($self, key, /)"),
        (some "True if the dictionary has the specified key, else False.")⟩,
    ⟨"__sizeof__", .method, none, (some "D.__sizeof__() -> size of D in memory, in bytes")⟩,
    ⟨"get", .method, (some "($self, key, default=None, /)"),
        (some "Return the value for key if key is in the dictionary, else default.")⟩,
    ⟨"setdefault", .method, (some "($self, key, default=None, /)"),
        (some ("Insert key with a value of default if key is not in the dictionary.\n\n" ++
          "Return the value for key if key is in the dictionary, else default."))⟩,
    ⟨"pop", .method, (some "($self, key, default=<unrepresentable>, /)"),
        (some ("D.pop(k[,d]) -> v, remove specified key and return the corresponding value.\n" ++
          "\nIf the key is not found, return the default if given; otherwise,\n" ++
          "raise a KeyError."))⟩,
    ⟨"popitem", .method, (some "($self, /)"),
        (some ("Remove and return a (key, value) pair as a 2-tuple.\n\n" ++
          "Pairs are returned in LIFO (last-in, first-out) order.\n" ++
          "Raises KeyError if the dict is empty."))⟩,
    ⟨"keys", .method, none,
        (some "D.keys() -> a set-like object providing a view on D's keys")⟩,
    ⟨"items", .method, none,
        (some "D.items() -> a set-like object providing a view on D's items")⟩,
    ⟨"values", .method, none,
        (some "D.values() -> an object providing a view on D's values")⟩,
    ⟨"update", .method, none,
        (some ("D.update([E, ]**F) -> None.  Update D from dict/iterable E and F.\n" ++
          "If E is present and has a .keys() method, then does:  for k in E: D[k] = " ++
          "E[k]\n" ++
          "If E is present and lacks a .keys() method, then does:  for k, v in E: D[k] = " ++
          "v\nIn either case, this is followed by: for k in F:  D[k] = F[k]"))⟩,
    ⟨"fromkeys", .kindMethod, (some "($type, iterable, value=None, /)"),
        (some "Create a new dictionary with keys from iterable and values set to value.")⟩,
    ⟨"clear", .method, none, (some "D.clear() -> None.  Remove all items from D.")⟩,
    ⟨"copy", .method, none, (some "D.copy() -> a shallow copy of D")⟩,
    ⟨"__reversed__", .method, (some "($self, /)"),
        (some "Return a reverse iterator over the dict keys.")⟩,
    ⟨"__class_getitem__", .kindMethod, none, (some "See PEP 585")⟩,
    ⟨"__doc__", .help, none,
        (some ("dict() -> new empty dictionary\n" ++
          "dict(mapping) -> new dictionary initialized from a mapping object's\n" ++
          "    (key, value) pairs\n" ++
          "dict(iterable) -> new dictionary initialized as if via:\n    d = \x7b\x7d\n" ++
          "    for k, v in iterable:\n        d[k] = v\n" ++
          "dict(**kwargs) -> new dictionary initialized with the name=value pairs\n" ++
          "    in the keyword argument list.  For example:  dict(one=1, two=2)"))⟩ ]

def listingMembers : List Member :=
  [ ⟨"__new__", .maker, (some "($type, *args, **kwargs)"),
        (some "Create and return a new object.  See help(type) for accurate signature.")⟩ ] ++
  operators
    [ "__repr__", "__str__", "__getattribute__", "__lt__", "__le__", "__eq__", "__ne__", "__gt__",
      "__ge__", "__iter__", "__or__", "__ror__", "__ior__", "__len__", "__getitem__",
      "__contains__" ] ++
  [ ⟨"get", .method, none,
        (some "D.get(k[,d]) -> D[k] if k in D, else d.  d defaults to None.")⟩,
    ⟨"keys", .method, none,
        (some "D.keys() -> a set-like object providing a view on D's keys")⟩,
    ⟨"values", .method, none,
        (some "D.values() -> an object providing a view on D's values")⟩,
    ⟨"items", .method, none,
        (some "D.items() -> a set-like object providing a view on D's items")⟩,
    ⟨"copy", .method, none, (some "D.copy() -> a shallow copy of D")⟩,
    ⟨"__class_getitem__", .kindMethod, none, (some "See PEP 585")⟩,
    ⟨"__reversed__", .method, none, (some "D.__reversed__() -> reverse iterator")⟩,
    ⟨"__doc__", .nothing, none, none⟩,
    ⟨"__hash__", .nothing, none, none⟩ ]

def boundMethodMembers : List Member :=
  operators
    [ "__repr__", "__hash__", "__call__", "__getattribute__", "__lt__", "__le__", "__eq__",
      "__ne__", "__gt__", "__ge__" ] ++
  [ ⟨"__reduce__", .method, none, none⟩,
    ⟨"__module__", .stored, none, none⟩,
    ⟨"__doc__", .computed, none, none⟩,
    ⟨"__name__", .computed, none, none⟩,
    ⟨"__qualname__", .computed, none, none⟩,
    ⟨"__self__", .computed, none, none⟩,
    ⟨"__text_signature__", .computed, none, none⟩ ]

def boundOperatorMembers : List Member :=
  operators
    [ "__repr__", "__hash__", "__call__", "__getattribute__", "__lt__", "__le__", "__eq__",
      "__ne__", "__gt__", "__ge__" ] ++
  [ ⟨"__reduce__", .method, none, none⟩,
    ⟨"__self__", .stored, none, none⟩,
    ⟨"__objclass__", .computed, none, none⟩,
    ⟨"__name__", .computed, none, none⟩,
    ⟨"__qualname__", .computed, none, none⟩,
    ⟨"__doc__", .computed, none, none⟩,
    ⟨"__text_signature__", .computed, none, none⟩ ]

def methodMembers : List Member :=
  operators ["__repr__", "__call__", "__getattribute__", "__get__"] ++
  [ ⟨"__reduce__", .method, none, none⟩,
    ⟨"__objclass__", .stored, none, none⟩,
    ⟨"__name__", .stored, none, none⟩,
    ⟨"__doc__", .computed, none, none⟩,
    ⟨"__qualname__", .computed, none, none⟩,
    ⟨"__text_signature__", .computed, none, none⟩ ]

def operatorMembers : List Member :=
  operators ["__repr__", "__call__", "__getattribute__", "__get__"] ++
  [ ⟨"__reduce__", .method, none, none⟩,
    ⟨"__objclass__", .stored, none, none⟩,
    ⟨"__name__", .stored, none, none⟩,
    ⟨"__doc__", .computed, none, none⟩,
    ⟨"__qualname__", .computed, none, none⟩,
    ⟨"__text_signature__", .computed, none, none⟩ ]

def kindMethodMembers : List Member :=
  operators ["__repr__", "__call__", "__getattribute__", "__get__"] ++
  [ ⟨"__objclass__", .stored, none, none⟩,
    ⟨"__name__", .stored, none, none⟩,
    ⟨"__doc__", .computed, none, none⟩,
    ⟨"__qualname__", .computed, none, none⟩,
    ⟨"__text_signature__", .computed, none, none⟩ ]

def computedMembers : List Member :=
  operators ["__repr__", "__getattribute__", "__get__", "__set__", "__delete__"] ++
  [ ⟨"__objclass__", .stored, none, none⟩,
    ⟨"__name__", .stored, none, none⟩,
    ⟨"__doc__", .computed, none, none⟩,
    ⟨"__qualname__", .computed, none, none⟩ ]

def storedMembers : List Member :=
  operators ["__repr__", "__getattribute__", "__get__", "__set__", "__delete__"] ++
  [ ⟨"__reduce__", .method, none, none⟩,
    ⟨"__objclass__", .stored, none, none⟩,
    ⟨"__name__", .stored, none, none⟩,
    ⟨"__doc__", .computed, none, none⟩,
    ⟨"__qualname__", .computed, none, none⟩ ]

def standaloneMembers : List Member :=
  [ ⟨"__new__", .maker, (some "($type, *args, **kwargs)"),
        (some "Create and return a new object.  See help(type) for accurate signature.")⟩ ] ++
  operators ["__repr__", "__call__", "__get__", "__init__"] ++
  [ ⟨"__func__", .stored, none, none⟩,
    ⟨"__wrapped__", .stored, none, none⟩,
    ⟨"__isabstractmethod__", .computed, none, none⟩,
    ⟨"__dict__", .computed, none, none⟩,
    ⟨"__doc__", .help, none,
        (some ("staticmethod(function) -> method\n\n" ++
          "Convert a function to be a static method.\n\n" ++
          "A static method does not receive an implicit first argument.\n" ++
          "To declare a static method, use this idiom:\n\n     class C:\n" ++
          "         @staticmethod\n         def f(arg1, arg2, argN):\n             ...\n" ++
          "\nIt can be called either on the class (e.g. C.f()) or on an instance\n" ++
          "(e.g. C().f()). Both the class and the instance are ignored, and\n" ++
          "neither is passed implicitly as the first argument to the method.\n\n" ++
          "Static methods in Python are similar to those found in Java or C++.\n" ++
          "For a more advanced concept, see the classmethod builtin."))⟩ ]

def appliedMembers : List Member :=
  [ ⟨"__new__", .maker, (some "($type, *args, **kwargs)"),
        (some "Create and return a new object.  See help(type) for accurate signature.")⟩ ] ++
  operators
    [ "__repr__", "__hash__", "__call__", "__getattribute__", "__lt__", "__le__", "__eq__",
      "__ne__", "__gt__", "__ge__", "__iter__", "__or__", "__ror__", "__getitem__" ] ++
  [ ⟨"__mro_entries__", .method, none, none⟩,
    ⟨"__instancecheck__", .method, none, none⟩,
    ⟨"__subclasscheck__", .method, none, none⟩,
    ⟨"__reduce__", .method, none, none⟩,
    ⟨"__dir__", .method, none, none⟩,
    ⟨"__origin__", .stored, none, none⟩,
    ⟨"__args__", .stored, none, none⟩,
    ⟨"__unpacked__", .stored, none, none⟩,
    ⟨"__parameters__", .computed, none, (some "Type variables in the GenericAlias.")⟩,
    ⟨"__typing_unpacked_tuple_args__", .computed, none, none⟩,
    ⟨"__doc__", .help, none,
        (some ("Represent a PEP 585 generic type\n\n" ++
          "E.g. for t = list[int], t.__origin__ is list and t.__args__ is (int,)."))⟩ ]

/-! ## The kinds -/

def all : List Kind :=
  [
    { name := "object"
      shortName := "object"
      home := "builtins"
      base := none
      sizes := ⟨16, 0, 529664, 0, 0⟩
      parameters := some "()"
      help := some
        ("The base class of the class hierarchy.\n\n" ++
          "When called, it accepts no arguments and returns a new featureless\n" ++
          "instance that has no instance attributes and cannot be given any.\n")
      members := objectMembers },
    { name := "type"
      shortName := "type"
      home := "builtins"
      base := some "object"
      sizes := ⟨904, 40, 2148031744, 264, 368⟩
      parameters := none
      help := some
        ("type(object) -> the object's type\n" ++
          "type(name, bases, dict, **kwds) -> a new type")
      members := kindMembers },
    { name := "str"
      shortName := "str"
      home := "builtins"
      base := some "object"
      sizes := ⟨80, 0, 273159424, 0, 0⟩
      parameters := none
      help := some
        ("str(object='') -> str\nstr(bytes_or_buffer[, encoding[, errors]]) -> str\n\n" ++
          "Create a new string object from the given object. If encoding or\n" ++
          "errors is specified, then the object must expose a data buffer\n" ++
          "that will be decoded using the given encoding and error handler.\n" ++
          "Otherwise, returns the result of object.__str__() (if defined)\n" ++
          "or repr(object).\nencoding defaults to sys.getdefaultencoding().\n" ++
          "errors defaults to 'strict'.")
      members := textMembers },
    { name := "tuple"
      shortName := "tuple"
      home := "builtins"
      base := some "object"
      sizes := ⟨24, 8, 71849248, 0, 0⟩
      parameters := some "(iterable=(), /)"
      help := some
        ("Built-in immutable sequence.\n\n" ++
          "If no argument is given, the constructor returns an empty tuple.\n" ++
          "If iterable is specified the tuple is initialized from iterable's items.\n\n" ++
          "If the argument is a tuple, the return value is the same object.")
      members := tupleMembers },
    { name := "int"
      shortName := "int"
      home := "builtins"
      base := some "object"
      sizes := ⟨24, 4, 21501184, 0, 0⟩
      parameters := none
      help := some
        ("int([x]) -> integer\nint(x, base=10) -> integer\n\n" ++
          "Convert a number or string to an integer, or return 0 if no arguments\n" ++
          "are given.  If x is a number, return x.__int__().  For floating point\n" ++
          "numbers, this truncates towards zero.\n\n" ++
          "If x is not a number or if base is given, then x must be a string,\n" ++
          "bytes, or bytearray instance representing an integer literal in the\n" ++
          "given base.  The literal can be preceded by '+' or '-' and be surrounded\n" ++
          "by whitespace.  The base defaults to 10.  Valid bases are 0 and 2-36.\n" ++
          "Base 0 means to interpret the base from the string as an integer literal.\n" ++
          ">>> int('0b100', base=0)\n4")
      members := wholeMembers },
    { name := "bool"
      shortName := "bool"
      home := "builtins"
      base := some "int"
      sizes := ⟨32, 4, 21500160, 0, 0⟩
      parameters := none
      help := some
        ("bool(x) -> bool\n\n" ++
          "Returns True when the argument x is true, False otherwise.\n" ++
          "The builtins True and False are the only two instances of the class bool.\n" ++
          "The class bool is a subclass of the class int, and cannot be subclassed.")
      members := truthMembers },
    { name := "NoneType"
      shortName := "NoneType"
      home := "builtins"
      base := some "object"
      sizes := ⟨16, 0, 528640, 0, 0⟩
      parameters := none
      help := none
      members := nothingMembers },
    { name := "dict"
      shortName := "dict"
      home := "builtins"
      base := some "object"
      sizes := ⟨48, 0, 541611328, 0, 0⟩
      parameters := none
      help := some
        ("dict() -> new empty dictionary\n" ++
          "dict(mapping) -> new dictionary initialized from a mapping object's\n" ++
          "    (key, value) pairs\n" ++
          "dict(iterable) -> new dictionary initialized as if via:\n    d = \x7b\x7d\n" ++
          "    for k, v in iterable:\n        d[k] = v\n" ++
          "dict(**kwargs) -> new dictionary initialized with the name=value pairs\n" ++
          "    in the keyword argument list.  For example:  dict(one=1, two=2)")
      members := recordMembers },
    { name := "mappingproxy"
      shortName := "mappingproxy"
      home := "builtins"
      base := some "object"
      sizes := ⟨24, 0, 545088, 0, 0⟩
      parameters := none
      help := none
      members := listingMembers },
    { name := "builtin_function_or_method"
      shortName := "builtin_function_or_method"
      home := "builtins"
      base := some "object"
      sizes := ⟨56, 0, 547200, 0, 40⟩
      parameters := none
      help := none
      members := boundMethodMembers },
    { name := "method-wrapper"
      shortName := "method-wrapper"
      home := "builtins"
      base := some "object"
      sizes := ⟨32, 0, 545152, 0, 0⟩
      parameters := none
      help := none
      members := boundOperatorMembers },
    { name := "method_descriptor"
      shortName := "method_descriptor"
      home := "builtins"
      base := some "object"
      sizes := ⟨56, 0, 678272, 0, 0⟩
      parameters := none
      help := none
      members := methodMembers },
    { name := "wrapper_descriptor"
      shortName := "wrapper_descriptor"
      home := "builtins"
      base := some "object"
      sizes := ⟨56, 0, 676224, 0, 0⟩
      parameters := none
      help := none
      members := operatorMembers },
    { name := "classmethod_descriptor"
      shortName := "classmethod_descriptor"
      home := "builtins"
      base := some "object"
      sizes := ⟨56, 0, 545152, 0, 0⟩
      parameters := none
      help := none
      members := kindMethodMembers },
    { name := "getset_descriptor"
      shortName := "getset_descriptor"
      home := "builtins"
      base := some "object"
      sizes := ⟨48, 0, 545152, 0, 0⟩
      parameters := none
      help := none
      members := computedMembers },
    { name := "member_descriptor"
      shortName := "member_descriptor"
      home := "builtins"
      base := some "object"
      sizes := ⟨48, 0, 545152, 0, 0⟩
      parameters := none
      help := none
      members := storedMembers },
    { name := "staticmethod"
      shortName := "staticmethod"
      home := "builtins"
      base := some "object"
      sizes := ⟨32, 0, 546048, 24, 0⟩
      parameters := none
      help := some
        ("staticmethod(function) -> method\n\n" ++
          "Convert a function to be a static method.\n\n" ++
          "A static method does not receive an implicit first argument.\n" ++
          "To declare a static method, use this idiom:\n\n     class C:\n" ++
          "         @staticmethod\n         def f(arg1, arg2, argN):\n             ...\n" ++
          "\nIt can be called either on the class (e.g. C.f()) or on an instance\n" ++
          "(e.g. C().f()). Both the class and the instance are ignored, and\n" ++
          "neither is passed implicitly as the first argument to the method.\n\n" ++
          "Static methods in Python are similar to those found in Java or C++.\n" ++
          "For a more advanced concept, see the classmethod builtin.")
      members := standaloneMembers },
    { name := "types.GenericAlias"
      shortName := "GenericAlias"
      home := "types"
      base := some "object"
      sizes := ⟨64, 0, 548096, 0, 40⟩
      parameters := none
      help := some
        ("Represent a PEP 585 generic type\n\n" ++
          "E.g. for t = list[int], t.__origin__ is list and t.__args__ is (int,).")
      members := appliedMembers } ]

def get (name : String) : Kind :=
  (all.find? (·.name == name)).getD { name, shortName := name }

/-- A kind with its bases, nearest first; no chain of bases is longer than three. -/
def lineage (name : String) : List String :=
  let base (n : String) : List String := (get n).base.toList
  [name] ++ base name ++ (base name).flatMap base

/-- What a kind offers under a name, with the kind of its lineage that it comes from. -/
def find? (kind name : String) : Option (String × Member) :=
  (lineage kind).findSome? fun k => ((get k).member? name).map fun m => (k, m)

end Kind
end Template
end PartitionKeys
