/-!
Why a pattern is rejected. The first fault in reading order counts; faults of meaning, such as an
unknown character property, are looked for only in a pattern that can be read to its end.
-/

namespace SecretScan

inductive PatternError where
  | classUnclosed
  | classEscapeInvalid
  | classRangeInvalid
  | classRangeLiteral
  | propertyInvalid
  | decimalInvalid
  | escapeUnexpectedEnd
  | escapeUnrecognized
  | hexEmpty
  | hexInvalid
  | hexInvalidDigit
  | backreference
  | lookAround
  | flagDanglingNegation
  | flagDuplicate
  | flagRepeatedNegation
  | flagUnexpectedEnd
  | flagUnrecognized
  | groupNameDuplicate
  | groupNameEmpty
  | groupNameInvalid
  | groupNameUnexpectedEnd
  | groupUnclosed
  | groupUnopened
  | repetitionMissing
  | repetitionCountEmpty
  | repetitionCountInvalid
  | repetitionCountUnclosed
  | boundaryUnclosed
  | boundaryUnrecognized
  | boundaryOrRepetitionUnexpectedEnd
  | nestLimitExceeded (limit : Nat)
  | unicodeNotAllowed
  | invalidUtf8
  | propertyNotFound
  | tooLarge (limit : Nat)
deriving DecidableEq, Repr

namespace PatternError

def reason : PatternError → String
  | .classUnclosed => "unclosed character class"
  | .classEscapeInvalid => "invalid escape sequence found in character class"
  | .classRangeInvalid => "invalid character class range, the start must be <= the end"
  | .classRangeLiteral => "invalid range boundary, must be a literal"
  | .propertyInvalid => "invalid Unicode character class"
  | .decimalInvalid => "decimal literal invalid"
  | .escapeUnexpectedEnd => "incomplete escape sequence, reached end of pattern prematurely"
  | .escapeUnrecognized => "unrecognized escape sequence"
  | .hexEmpty => "hexadecimal literal empty"
  | .hexInvalid => "hexadecimal literal is not a Unicode scalar value"
  | .hexInvalidDigit => "invalid hexadecimal digit"
  | .backreference => "backreferences are not supported"
  | .lookAround => "look-around, including look-ahead and look-behind, is not supported"
  | .flagDanglingNegation => "dangling flag negation operator"
  | .flagDuplicate => "duplicate flag"
  | .flagRepeatedNegation => "flag negation operator repeated"
  | .flagUnexpectedEnd => "expected flag but got end of regex"
  | .flagUnrecognized => "unrecognized flag"
  | .groupNameDuplicate => "duplicate capture group name"
  | .groupNameEmpty => "empty capture group name"
  | .groupNameInvalid => "invalid capture group character"
  | .groupNameUnexpectedEnd => "unclosed capture group name"
  | .groupUnclosed => "unclosed group"
  | .groupUnopened => "unopened group"
  | .repetitionMissing => "repetition operator missing expression"
  | .repetitionCountEmpty => "repetition quantifier expects a valid decimal"
  | .repetitionCountInvalid => "invalid repetition count range, the start must be <= the end"
  | .repetitionCountUnclosed => "unclosed counted repetition"
  | .boundaryUnclosed =>
    "special word boundary assertion is either unclosed or contains an invalid character"
  | .boundaryUnrecognized =>
    "unrecognized special word boundary assertion, " ++
      "valid choices are: start, end, start-half or end-half"
  | .boundaryOrRepetitionUnexpectedEnd =>
    "found either the beginning of a special word boundary or a bounded repetition on a \\b " ++
      "with an opening brace, but no closing brace"
  | .nestLimitExceeded limit =>
    "exceed the maximum number of nested parentheses/brackets (" ++ toString limit ++ ")"
  | .unicodeNotAllowed => "Unicode not allowed here"
  | .invalidUtf8 => "pattern can match invalid UTF-8"
  | .propertyNotFound => "Unicode property not found"
  | .tooLarge limit => "Compiled regex exceeds size limit of " ++ toString limit ++ " bytes."

def message (e : PatternError) : String :=
  match e with
  | .tooLarge _ => e.reason
  | _ => "error: " ++ e.reason

end PatternError

end SecretScan
