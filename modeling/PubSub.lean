import PubSub.Event.LogLine
import PubSub.Proofs.Batch.Forming
import PubSub.Proofs.Broker.Crossing
import PubSub.Proofs.Broker.Redelivery
import PubSub.Proofs.Broker.Watching
import PubSub.Proofs.Event.Closing
import PubSub.Proofs.Event.Feedback
import PubSub.Proofs.Message.Attributes
import PubSub.Proofs.Pipeline.RoundTrip
import PubSub.Proofs.Retry.Cancelling
import PubSub.Proofs.Retry.Spreading
import PubSub.Proofs.Subscription.Dividing
import PubSub.Proofs.Subscription.Ending
import PubSub.Proofs.Subscription.Opening
import PubSub.Proofs.Subscription.Pausing
import PubSub.Proofs.Topic.Stranding
import PubSub.Simulation.BusSession
import PubSub.Simulation.Scenario
