import TrxdbLoader.Block
import TrxdbLoader.Loader
import TrxdbLoader.Steps
import TrxdbLoader.Sites
import TrxdbLoader.Run
import TrxdbLoader.Resolver
import TrxdbLoader.Finality
import TrxdbLoader.StopBlock
import TrxdbLoader.Patch
import TrxdbLoader.Flush
import TrxdbLoader.Effects
import TrxdbLoader.Lifecycle
import TrxdbLoader.Pipeline
import TrxdbLoader.Live
import TrxdbLoader.Failures
import TrxdbLoader.Truncation
import TrxdbLoader.PatchPipeline
import TrxdbLoader.CalltoIndex
import TrxdbLoader.Integrity
