import CloudTrail.Basic
import CloudTrail.Env
import CloudTrail.Regex
import CloudTrail.Chunk
import CloudTrail.Wave
import CloudTrail.Extract
import CloudTrail.OpenS3
import CloudTrail.Download
import CloudTrail.Sqs
import CloudTrail.NextEvent
import CloudTrail.Stream
import CloudTrail.Open
import CloudTrail.Listing
import CloudTrail.Progress
import CloudTrail.Downloads
import CloudTrail.Failures
import CloudTrail.Queue
import CloudTrail.Delivery
