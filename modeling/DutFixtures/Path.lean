namespace DutFixtures

/-- A path is a Unicode text here and in all that follows, so it is shown as the text that it is.
A path of bytes that are no such text is outside of the model. -/
def isAbsolute (path : String) : Bool :=
  path.toList.head? == some '/'

/-- Places a path under a base. An absolute path replaces the base, one slash is
put in between unless the base is empty or ends in one, and nothing is normalised. -/
def joinPath (base path : String) : String :=
  if isAbsolute path then path
  else if base.toList.getLast?.all (· == '/') then base ++ path
  else base ++ "/" ++ path

end DutFixtures
