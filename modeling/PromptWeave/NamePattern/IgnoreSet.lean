import PromptWeave.NamePattern.Basic

/-! Sets of patterns for names to ignore.
A pattern that cannot be used is left out with a warning. -/
namespace PromptWeave

structure IgnoreSet where
  patterns : List NamePattern

namespace IgnoreSet

/-- Hidden files, images, sound, video, office documents and archives. -/
def defaultPatterns : List String := [
  "^\\..*",
  "(?i)\\.(png|jpe?g|gif|bmp|webp|ico|tiff?|heic|psd)$",
  "(?i)\\.(mp3|wav|ogg|flac|m4a|aac|opus)$",
  "(?i)\\.(mp4|mov|avi|mkv|webm|wmv|m4v)$",
  "(?i)\\.(pdf|docx?|xlsx?|pptx?|odt|ods|odp)$",
  "(?i)\\.(zip|tar|gz|tgz|bz2|xz|7z|rar|jar)$"]

/-- The patterns that can be used, and the warnings about the others. -/
def ofPatterns : List String → IgnoreSet × List String
  | [] => (⟨[]⟩, [])
  | p :: ps =>
    let (rest, warnings) := ofPatterns ps
    match NamePattern.compile p with
    | .ok pattern => (⟨pattern :: rest.patterns⟩, warnings)
    | .error e => (rest, ("Ignoring pattern: " ++ e.sanitized) :: warnings)

def size (s : IgnoreSet) : Nat := s.patterns.length

def isEmpty (s : IgnoreSet) : Bool := s.patterns.isEmpty

def ignores (s : IgnoreSet) (name : String) : Bool := s.patterns.any fun p => p.isMatch name

end IgnoreSet
end PromptWeave
