import Paperwork.Unicode.CodeSet
import Paperwork.Unicode.Table.Text

/-!
# Classes of characters in texts

Texts follow a later version of the standard than patterns do, so these classes hold more
characters than the properties of the same names.
-/

namespace Paperwork.Unicode

/-- Letters and what counts as letters. -/
def alphabeticCodes : CodeSet := .ofPacked Table.alphabetic

/-- Numbers of any kind. -/
def numericCodes : CodeSet := .ofPacked Table.numeric

/-- Characters that have case. -/
def casedCodes : CodeSet := .ofPacked Table.cased

/-- Characters that are passed over when neighbours with case are looked for. -/
def caseIgnorableCodes : CodeSet := .ofPacked Table.caseIgnorable

/-- Characters from 128 on that are not shown as they are. -/
def unprintedCodes : CodeSet := .ofPacked Table.unprinted

end Paperwork.Unicode
