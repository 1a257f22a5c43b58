import TaskProbe.Gzip.Member
import TaskProbe.Url.Host

/-!
# What is built in

Two things are left to whoever provides them: names of hosts outside ASCII, and ways of compressing data.
These are the providers that come with the program. They are instances for those who open this namespace;
everything else is said of any provider.
-/

namespace TaskProbe.Builtin

/-- No names are known but those in ASCII. -/
scoped instance asciiNames : Url.Idna where
  toAscii? _ := none

/-- Data is stored as it is. -/
scoped instance storedData : Gzip.Deflater where
  deflate := Gzip.deflateStored

end TaskProbe.Builtin
