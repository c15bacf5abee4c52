/-
Chunk strategies: which part of a program owns the state of a statement. All statements of a method are
in the same chunk.
-/

import Tabulation.Config.Document
import Tabulation.Hash
import Tabulation.Program.Basic

namespace Tabulation

/-- A way to divide a program into chunks. -/
inductive ChunkStrategy where
  | byClass
  | byPackage
  | byMethod
  /-- The classes are spread over a number of chunks by their names. -/
  | hashed (buckets : Int)
deriving Repr, DecidableEq

namespace ChunkStrategy

def ofName (name : String) (buckets : Int) : Except ConfigError ChunkStrategy :=
  match name with
  | "class" | "" => .ok .byClass
  | "package" => .ok .byPackage
  | "method" => .ok .byMethod
  | "hashed" => .ok (.hashed buckets)
  | other => .error (.chunkStrategy other)

/-- The chunk of a name among a number of them, which is at least one. -/
def bucket (buckets : Int) (name : String) : String :=
  let count := if buckets ≤ 0 then 1 else buckets
  "bucket-" ++ toString ((Hash.bucket? (Text.bytesOf name) count).getD 0)

def chunkOf (strategy : ChunkStrategy) (s : Statement) : String :=
  match strategy with
  | .byClass => s.method.owner
  | .byPackage => (splitAtLastDot s.method.owner).1
  | .byMethod => s.method.text
  | .hashed buckets => bucket buckets s.method.owner

end ChunkStrategy

def Config.strategy (config : Config) : Except ConfigError ChunkStrategy :=
  ChunkStrategy.ofName config.options.chunkStrategy config.options.chunkBuckets

end Tabulation
