/-!
# Kinds of errors

An error has a message, and a kind by whose name callers tell it from others. A text that cannot be
decoded is a value error as well, and what stands under `system` covers the kinds of files that are
missing or of the wrong sort.
-/

namespace Screening

inductive ErrorKind where
  | value
  | decoding
  | type
  | key
  | index
  | missingAttribute
  | overflow
  | recursion
  | system
  | missingFile
  | directory
  | notDirectory
  /-- Data whose fields have faults. -/
  | faulty
  | yamlReader
  | yamlScanner
  | yamlParser
  | yamlComposer
  | yamlConstructor
  /-- A failure of no particular kind. -/
  | screening
  | notFound
  | forbidden
  | badExpression
  | badRequest
  | persistence
  deriving DecidableEq

def ErrorKind.name : ErrorKind → String
  | value => "ValueError"
  | decoding => "UnicodeDecodeError"
  | type => "TypeError"
  | key => "KeyError"
  | index => "IndexError"
  | missingAttribute => "AttributeError"
  | overflow => "OverflowError"
  | recursion => "RecursionError"
  | system => "OSError"
  | missingFile => "FileNotFoundError"
  | directory => "IsADirectoryError"
  | notDirectory => "NotADirectoryError"
  | faulty => "ValidationError"
  | yamlReader => "ReaderError"
  | yamlScanner => "ScannerError"
  | yamlParser => "ParserError"
  | yamlComposer => "ComposerError"
  | yamlConstructor => "ConstructorError"
  | screening => "ScreeningError"
  | notFound => "NotFoundError"
  | forbidden => "ForbiddenError"
  | badExpression => "ExpressionValidationError"
  | badRequest => "RequestValidationError"
  | persistence => "PersistenceError"

end Screening
