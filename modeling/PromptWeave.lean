import PromptWeave.Files.Tree
import PromptWeave.Main
import PromptWeave.Proofs.Lists
import PromptWeave.Proofs.Assoc
import PromptWeave.Proofs.Files.Attempts
import PromptWeave.Proofs.Files.Places
import PromptWeave.Proofs.Recipe.Layers
import PromptWeave.Proofs.Recipe.Location
import PromptWeave.Proofs.Files.Steps
import PromptWeave.Proofs.Files.Walk
import PromptWeave.Proofs.Files.Below
import PromptWeave.Proofs.Files.Changes
import PromptWeave.Proofs.Files.Overriding
import PromptWeave.Proofs.Json.Distinct
import PromptWeave.Proofs.Json.Order
import PromptWeave.Proofs.Schema.Merging
import PromptWeave.Proofs.Schema.Treating
import PromptWeave.Proofs.Schema.Inlining
import PromptWeave.Proofs.Schema.Resolving
import PromptWeave.Proofs.Schema.Origins
import PromptWeave.Proofs.Schema.Meaning
import PromptWeave.Proofs.Schema.Lossless
import PromptWeave.Proofs.Schema.Faithful
import PromptWeave.Proofs.Schema.Capitals
import PromptWeave.Proofs.Schema.References
import PromptWeave.Proofs.Unicode.Uppercase
import PromptWeave.Proofs.Schema.Subschemas
import PromptWeave.Proofs.Schema.Cycles
import PromptWeave.Proofs.Schema.Inlinable
import PromptWeave.Proofs.Markdown.Lines
import PromptWeave.Proofs.Markdown.Kept
import PromptWeave.Proofs.Markdown.Listing
import PromptWeave.Proofs.Markdown.Sections
import PromptWeave.Proofs.Render.Chunks
import PromptWeave.Proofs.Markdown.Written
import PromptWeave.Proofs.Markdown.RoundTrip
import PromptWeave.Proofs.Markdown.Stack
import PromptWeave.Proofs.Markdown.Substituting
import PromptWeave.Proofs.Precedence
import PromptWeave.Proofs.Recipe.Filling
import PromptWeave.Proofs.Files.Folders
import PromptWeave.Proofs.Provider.Conversation
import PromptWeave.Proofs.Render.Presence
import PromptWeave.Proofs.Format
import PromptWeave.Proofs.Error
import PromptWeave.Proofs.Regex.Reading
import PromptWeave.Proofs.Regex.Brackets
import PromptWeave.Proofs.Regex.Operators
import PromptWeave.Proofs.Regex.Grammar
import PromptWeave.Proofs.Regex.Within
import PromptWeave.Proofs.NamePattern.Legible
import PromptWeave.Proofs.NamePattern.Nested
import PromptWeave.Proofs.Recipe.Resolving
import PromptWeave.Proofs.Areas
import PromptWeave.Proofs.Unicode.Bytes
import PromptWeave.Proofs.Files.Loading
import PromptWeave.Proofs.Json.Records
import PromptWeave.Proofs.Provider.Answers
import PromptWeave.Proofs.CommandLine
import PromptWeave.Proofs.Files.Wrapping
import PromptWeave.Proofs.Unicode.Lowercase
import PromptWeave.Proofs.Registry
import PromptWeave.Proofs.Json.Alike
import PromptWeave.Proofs.Json.Restoring
import PromptWeave.Proofs.Prompt.Restoring
import PromptWeave.Proofs.Recipe.Restoring
import PromptWeave.Proofs.Substitution
import PromptWeave.Proofs.Schema.Untouched
import PromptWeave.Proofs.Layering
import PromptWeave.Proofs.Render.Preorder
import PromptWeave.Proofs.Markdown.Fence
import PromptWeave.Proofs.Render.Normal
import PromptWeave.Proofs.Markdown.Trimmed
import PromptWeave.Proofs.Render.Tags
import PromptWeave.Proofs.Markdown.Tagged
import PromptWeave.Proofs.Render.Indenting
import PromptWeave.Proofs.NamePattern.Branching
import PromptWeave.Proofs.Regex.Meaning
import PromptWeave.Proofs.NamePattern.Overlapping
import PromptWeave.Proofs.Editing
import PromptWeave.Proofs.Provider.Tool
import PromptWeave.Proofs.Markdown.Leading
import PromptWeave.Proofs.Unicode.Tables
import PromptWeave.Proofs.NamePattern.Accepting
import PromptWeave.Proofs.Hiding
import PromptWeave.Proofs.Cursor
import PromptWeave.Proofs.NamePattern.InRange
