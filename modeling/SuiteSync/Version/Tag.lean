import SuiteSync.Version.Basic

set_option autoImplicit false

namespace SuiteSync

def tagVersion? (tag : String) : Option Version :=
  match tag.toList with
  | 'v' :: rest => Version.parse? (String.ofList rest)
  | _ => Version.parse? tag

def laterTag (best : Option (Version × String)) (next : Version × String) : Option (Version × String) :=
  match best with
  | none => some next
  | some held => if compare next.1 held.1 = .lt then some held else some next

def greatestTag (tagged : List (Version × String)) : Option (Version × String) := tagged.foldl laterTag none

def versionTags (tags : List String) : List (Version × String) :=
  tags.filterMap fun tag => (tagVersion? tag).map fun version => (version, tag)

def latestTag? (tags : List String) : Option String :=
  let tagged := versionTags tags
  let releases := tagged.filter fun entry => entry.1.isRelease
  let previews := tagged.filter fun entry => !entry.1.isRelease
  ((greatestTag releases).or (greatestTag previews)).map Prod.snd

end SuiteSync
