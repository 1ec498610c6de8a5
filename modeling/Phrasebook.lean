import Phrasebook.Absences
import Phrasebook.Binary64.Rounding
import Phrasebook.Calendar.DatePattern
import Phrasebook.Calendar.LocalText
import Phrasebook.Calendar.Rfc3339
import Phrasebook.Decimal.Scientific
import Phrasebook.Decimal.Shortest
import Phrasebook.Fragment
import Phrasebook.Json.Description
import Phrasebook.Json.Reader
import Phrasebook.Locale.LanguageTag
import Phrasebook.Locale.Localizer
import Phrasebook.Locale.Standard
import Phrasebook.Message
import Phrasebook.Number.Quantity
import Phrasebook.Number.Symbols
import Phrasebook.Pattern.Decode
import Phrasebook.Plural.Table
import Phrasebook.Proofs.Binary64.Equality
import Phrasebook.Proofs.Binary64.Overflow
import Phrasebook.Proofs.Calendar.Rfc3339
import Phrasebook.Proofs.Fragment
import Phrasebook.Proofs.Locale.Affixes
import Phrasebook.Proofs.Locale.Conversion
import Phrasebook.Proofs.Locale.MinorUnits
import Phrasebook.Proofs.Locale.Money
import Phrasebook.Proofs.Locale.Percent
import Phrasebook.Proofs.Locale.Ranks
import Phrasebook.Proofs.Message.Strict
import Phrasebook.Proofs.Number.Duration
import Phrasebook.Proofs.Number.Spellout
import Phrasebook.Proofs.Number.Words
import Phrasebook.Proofs.Pattern.Acceptance
import Phrasebook.Proofs.Pattern.Decoded
import Phrasebook.Proofs.Pattern.Elements
import Phrasebook.Proofs.Pattern.Encoding
import Phrasebook.Proofs.Pattern.NormalForm
import Phrasebook.Proofs.Render.Additions
import Phrasebook.Proofs.Render.Asked
import Phrasebook.Proofs.Render.Categories
import Phrasebook.Proofs.Render.Concatenation
import Phrasebook.Proofs.Render.ConsistentTags
import Phrasebook.Proofs.Render.Direct
import Phrasebook.Proofs.Render.Faults
import Phrasebook.Proofs.Render.FewerBranches
import Phrasebook.Proofs.Render.Growth
import Phrasebook.Proofs.Render.Handlers
import Phrasebook.Proofs.Render.Linked
import Phrasebook.Proofs.Render.Lockstep
import Phrasebook.Proofs.Render.Markup
import Phrasebook.Proofs.Render.Moments
import Phrasebook.Proofs.Render.MoreArguments
import Phrasebook.Proofs.Render.Numerals
import Phrasebook.Proofs.Render.Outcome
import Phrasebook.Proofs.Render.Output
import Phrasebook.Proofs.Render.PluralChoice
import Phrasebook.Proofs.Render.Ranks
import Phrasebook.Proofs.Render.Readings
import Phrasebook.Proofs.Render.Reals
import Phrasebook.Proofs.Render.Recorded
import Phrasebook.Proofs.Render.Structure
import Phrasebook.Proofs.Render.Untagged
import Phrasebook.Proofs.Template.Compilation
import Phrasebook.Proofs.Template.FirstDefect
import Phrasebook.Proofs.Template.Leaves
import Phrasebook.Proofs.Template.Pound
import Phrasebook.Proofs.Template.Tags
import Phrasebook.Proofs.Text.Markup
import Phrasebook.Proofs.Traversal
import Phrasebook.Table
import Phrasebook.Template.Compile
import Phrasebook.Template.Render
import Phrasebook.Text.Markup
import Phrasebook.Text.Quoted
import Phrasebook.Value
