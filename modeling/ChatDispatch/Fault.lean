import ChatDispatch.Text.Quoted
import ChatDispatch.Value

/-!
# Faults

Everything that can go wrong, by cause.  The wording of a fault is a function of its
cause, and so is its category, by which the program decides what it recovers from.
-/

namespace ChatDispatch

/-- The categories of faults. -/
inductive FaultCategory where
  | agentNotFound
  | pluginDisabled
  | authenticationRequired
  | commandNotFound
  | unsupportedSigil
  | command
  | value
  | type
  | attribute
  | runtime
  | connection
  | loading
  | script
  | overflow
  | system
  | fileNotFound
  | isDirectory
  | notDirectory
  | general
deriving DecidableEq, Repr

/-- The causes of faults. -/
inductive Fault where
  /-- No plugin answers for the agent. -/
  | agentNotFound (agent : String)
  /-- The plugin of the agent is switched off. -/
  | pluginDisabled (agent : String)
  /-- The plugin of the agent has to be set up before it runs commands. -/
  | authenticationRequired (agent : String)
  /-- The agent has no such command. -/
  | commandNotFound (agent command : String) (suggestions : List String)
  /-- A command line starts with something that is no sigil, shown as a literal. -/
  | unsupportedSigil (shown : String)
  /-- The command was declared without anything to run. -/
  | nothingToRun (command : String)
  /-- A declaration, shown as a literal, has neither a name nor an id. -/
  | namelessDeclaration (shown : String)
  /-- A plugin of the given class has no id. -/
  | pluginWithoutId (className : String)
  /-- A model is to be selected by an empty id. -/
  | emptyModelId
  /-- A settings file holds something other than a mapping. -/
  | settingsNotMapping (path : String)
  /-- Digits that write no decimal integer. -/
  | notAnInteger (content : String)
  /-- An integer has more digits than the limit allows. -/
  | integerTooLong (digits : Nat)
  /-- A value of this kind has no items. -/
  | notIterable (kind : Kind)
  /-- A value of this kind has no such attribute. -/
  | noAttribute (kind : Kind) (name : String)
  /-- A value of this kind cannot be a key. -/
  | notAKey (kind : Kind)
  /-- A value of this kind has no length. -/
  | noLength (kind : Kind)
  /-- A value of this kind cannot be waited for. -/
  | notAwaitable (kind : Kind)
  /-- A value of this kind cannot be called. -/
  | notCallable (kind : Kind)
  /-- The callee, shown as in a message, is given a value of this kind instead of its
  arguments. -/
  | notArguments (callee : String) (kind : Kind)
  /-- A value of this kind is no path. -/
  | notAPath (kind : Kind)
  /-- A value of this kind cannot be looked for in the file system. -/
  | notAFileName (kind : Kind)
  /-- An integer is too large to stand for an open file. -/
  | descriptorTooLarge
  /-- An integer is too small to stand for an open file. -/
  | descriptorTooSmall
  /-- Values of these kinds have no order. -/
  | notOrdered (left right : Kind)
  /-- The fields of a record are given by a value of this kind instead of a mapping. -/
  | fieldsNotMapping (maker : String) (kind : Kind)
  /-- Some of the fields of a record are not named by texts. -/
  | unnamedFields
  /-- The maker of a record is given the field of this name twice. -/
  | repeatedField (maker name : String)
  /-- The maker of a record is given a field under the name of the record itself. -/
  | reservedField (maker name : String)
  /-- The maker of a record takes no field of this name. -/
  | unexpectedField (maker name : String)
  /-- The maker of a record needs these fields too. -/
  | missingFields (maker : String) (names : List String)
  /-- The name of a command class has the wrong ending. -/
  | badClassName (name : String)
  /-- The name of a command class has a null character in it. -/
  | nullInClassName
  /-- A command class does not define this attribute. -/
  | classLacks (trait : String)
  /-- A command class does not say what it executes. -/
  | classLacksExecute
  /-- A file is not a plugin script. -/
  | notAScript (path : String)
  /-- A compiled extension cannot be opened, for the given reason. -/
  | badExtension (path reason : String)
  /-- A compiled script of a module does not start as it should; its beginning is shown. -/
  | badMagic (name shown : String)
  /-- A plugin script or document that cannot be read. -/
  | malformed (path : String)
  /-- A model list in a file cannot be merged, for the given reason. -/
  | modelList (path : String) (reason : String)
  /-- A path starts at the home directory of an unknown account. -/
  | noHome
  /-- A path has a null character in it. -/
  | nullInPath
  /-- A path has a name in it that is too long for a file. -/
  | nameTooLong
  /-- There is no such file. -/
  | fileNotFound
  /-- A directory stands where a file is expected. -/
  | isDirectory
  /-- A file stands where a directory is expected. -/
  | notDirectory
  /-- A callable failed on purpose. -/
  | raised (category : FaultCategory) (message : String)
deriving DecidableEq, Repr

def Kind.word : Kind → String
  | .null => "NoneType"
  | .bool => "bool"
  | .int => "int"
  | .float => "float"
  | .text => "str"
  | .list => "list"
  | .map => "dict"
  | .callable typeName => typeName

namespace Fault

def category : Fault → FaultCategory
  | .agentNotFound _ => .agentNotFound
  | .pluginDisabled _ => .pluginDisabled
  | .authenticationRequired _ => .authenticationRequired
  | .commandNotFound .. => .commandNotFound
  | .unsupportedSigil _ => .unsupportedSigil
  | .nothingToRun _ => .command
  | .namelessDeclaration _ => .value
  | .pluginWithoutId _ => .type
  | .emptyModelId => .value
  | .settingsNotMapping _ => .value
  | .notAnInteger _ => .value
  | .integerTooLong _ => .value
  | .notIterable _ => .type
  | .noAttribute .. => .attribute
  | .notAKey _ => .type
  | .noLength _ => .type
  | .notAwaitable _ => .type
  | .notCallable _ => .type
  | .notArguments .. => .type
  | .notAPath _ => .type
  | .notAFileName _ => .type
  | .descriptorTooLarge => .overflow
  | .descriptorTooSmall => .overflow
  | .notOrdered .. => .type
  | .fieldsNotMapping .. => .type
  | .unnamedFields => .type
  | .repeatedField .. => .type
  | .reservedField .. => .type
  | .unexpectedField .. => .type
  | .missingFields .. => .type
  | .badClassName _ => .type
  | .nullInClassName => .value
  | .classLacks _ => .type
  | .classLacksExecute => .type
  | .notAScript _ => .loading
  | .badExtension .. => .loading
  | .badMagic .. => .loading
  | .malformed _ => .script
  | .modelList .. => .general
  | .noHome => .runtime
  | .nullInPath => .value
  | .nameTooLong => .system
  | .fileNotFound => .fileNotFound
  | .isDirectory => .isDirectory
  | .notDirectory => .notDirectory
  | .raised category _ => category

/-- The end of a message about a missing command. -/
def suggestionText (suggestions : List String) : String :=
  if suggestions.isEmpty then
    ""
  else
    " (did you mean: " ++ String.intercalate ", " suggestions ++ "?)"

/-- The names of missing fields, as they are listed in a message. -/
def nameList : List String → String
  | [] => ""
  | [name] => "'" ++ name ++ "'"
  | [first, second] => "'" ++ first ++ "' and '" ++ second ++ "'"
  | [first, second, third] => "'" ++ first ++ "', '" ++ second ++ "', and '" ++ third ++ "'"
  | first :: rest => "'" ++ first ++ "', " ++ nameList rest

/-- The beginning of a literal that is shown in a message: 200 characters at most. -/
def excerpt (literal : String) : String :=
  String.ofList (literal.toList.take 200)

def message : Fault → String
  | .agentNotFound agent => "Plugin not found: " ++ agent
  | .pluginDisabled agent => "Plugin is disabled: " ++ agent
  | .authenticationRequired agent => "Plugin requires authentication: " ++ agent
  | .commandNotFound agent command suggestions =>
      "Command not found: " ++ agent ++ ":" ++ command ++ suggestionText suggestions
  | .unsupportedSigil shown => "Unsupported command prefix: " ++ shown
  | .nothingToRun command => "No handler defined for command: " ++ command
  | .namelessDeclaration shown => "Command declaration has no name: " ++ shown
  | .pluginWithoutId className => className ++ " must define id"
  | .emptyModelId => "Model id must not be empty"
  | .settingsNotMapping path => "Settings file " ++ path ++ " must contain a mapping"
  | .notAnInteger content =>
      "invalid literal for int() with base 10: " ++ excerpt (Text.quoted content)
  | .integerTooLong digits =>
      "Exceeds the limit (4300 digits) for integer string conversion: value has " ++
        toString digits ++ " digits; use sys.set_int_max_str_digits() to increase the limit"
  | .notIterable kind => "'" ++ kind.word ++ "' object is not iterable"
  | .noAttribute kind name => "'" ++ kind.word ++ "' object has no attribute '" ++ name ++ "'"
  | .notAKey kind => "unhashable type: '" ++ kind.word ++ "'"
  | .noLength kind => "object of type '" ++ kind.word ++ "' has no len()"
  | .notAwaitable kind => "object " ++ kind.word ++ " can't be used in 'await' expression"
  | .notCallable kind => "'" ++ kind.word ++ "' object is not callable"
  | .notArguments callee kind =>
      callee ++ " argument after * must be an iterable, not " ++ kind.word
  | .notAPath kind => "expected str, bytes or os.PathLike object, not " ++ kind.word
  | .notAFileName kind =>
      "stat: path should be string, bytes, os.PathLike or integer, not " ++ kind.word
  | .descriptorTooLarge => "fd is greater than maximum"
  | .descriptorTooSmall => "fd is less than minimum"
  | .notOrdered left right =>
      "'<' not supported between instances of '" ++ left.word ++ "' and '" ++
        right.word ++ "'"
  | .fieldsNotMapping maker kind =>
      maker ++ "() argument after ** must be a mapping, not " ++ kind.word
  | .unnamedFields => "keywords must be strings"
  | .repeatedField maker name =>
      maker ++ "() got multiple values for keyword argument '" ++ name ++ "'"
  | .reservedField maker name =>
      maker ++ "() got multiple values for argument '" ++ name ++ "'"
  | .unexpectedField maker name =>
      maker ++ "() got an unexpected keyword argument '" ++ name ++ "'"
  | .missingFields maker names =>
      maker ++ "() missing " ++ toString names.length ++
        (if names.length = 1 then " required positional argument: "
          else " required positional arguments: ") ++ nameList names
  | .badClassName name => "Command class must end with 'Command', got '" ++ name ++ "'"
  | .nullInClassName => "type name must not contain null characters"
  | .classLacks trait => "Command class must define " ++ trait
  | .classLacksExecute => "Command class must implement execute method"
  | .notAScript path => "Cannot load plugin module from " ++ path
  | .badExtension path reason => path ++ ": " ++ reason
  | .badMagic name shown =>
      "bad magic number in " ++ Text.quoted name ++ ": b" ++ Text.quoted shown
  | .malformed path => "Cannot read " ++ path
  | .modelList path reason => "Error loading model settings from " ++ path ++ ": " ++ reason
  | .noHome => "Could not determine home directory."
  | .nullInPath => "embedded null byte"
  | .nameTooLong => "File name too long"
  | .fileNotFound => "No such file or directory"
  | .isDirectory => "Is a directory"
  | .notDirectory => "Not a directory"
  | .raised _ message => message

end Fault

end ChatDispatch
